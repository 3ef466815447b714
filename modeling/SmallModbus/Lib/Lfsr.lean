/-
# `SmallModbus.Lib.Lfsr` — shift registers with feedback, and the errors they detect.

A register of `w` bits is shifted towards bit 0; when the bit shifted out is 1, the polynomial `p` is added
(`step`). Each bit of a message is added at bit 0 before a step (`feed`), so `run p c bits` is the register
after a message. Everything is linear over exclusive or: a message with the errors `e` moves the register
by `run p 0 e`, and the errors are detected exactly if that is not 0.

Three kinds of errors are: an odd number of them, when `p` has an odd number of ones; two of them, when
the distance is no period of the register; any of them within `w` consecutive bits.
-/
import Mathlib.Algebra.Field.ZMod
import Mathlib.Algebra.BigOperators.Group.Finset.Basic
import Mathlib.Algebra.Ring.Parity

namespace SmallModbus.Lib.Lfsr

variable {w : Nat}

/-! ## §1 — the register. -/

/-- One shift. -/
def step (p c : BitVec w) : BitVec w := if c.getLsbD 0 then (c >>> 1) ^^^ p else c >>> 1

/-- A bit at the low end of the register. -/
def unit (b : Bool) : BitVec w := if b then 1 else 0

/-- A bit of the message into the register. -/
def feed (p c : BitVec w) (b : Bool) : BitVec w := step p (c ^^^ unit b)

/-- The register after a message. -/
def run (p c : BitVec w) (bits : List Bool) : BitVec w := bits.foldl (feed p) c

/-- The register after so many shifts. -/
def steps (p : BitVec w) : Nat → BitVec w → BitVec w
  | 0, c => c
  | k + 1, c => steps p k (step p c)

/-- At most `w` bits of a message as a register, the first one at the low end. -/
def word : List Bool → BitVec w
  | [] => 0
  | b :: bits => unit b ^^^ (word bits <<< 1)

section Linear

variable (p : BitVec w)

theorem step_xor (c d : BitVec w) : step p (c ^^^ d) = step p c ^^^ step p d := by
  unfold step
  rw [BitVec.getLsbD_xor, BitVec.ushiftRight_xor_distrib]
  cases c.getLsbD 0 with
  | false =>
    cases d.getLsbD 0 with
    | false => rfl
    | true => exact BitVec.xor_assoc _ _ _
  | true =>
    cases d.getLsbD 0 with
    | false =>
      show c >>> 1 ^^^ d >>> 1 ^^^ p = c >>> 1 ^^^ p ^^^ d >>> 1
      rw [BitVec.xor_assoc, BitVec.xor_comm (d >>> 1), BitVec.xor_assoc]
    | true =>
      show c >>> 1 ^^^ d >>> 1 = c >>> 1 ^^^ p ^^^ (d >>> 1 ^^^ p)
      rw [BitVec.xor_comm (d >>> 1) p, BitVec.xor_assoc, ← BitVec.xor_assoc p p, BitVec.xor_self,
        BitVec.zero_xor]

theorem zero_xor (c : BitVec w) : 0 ^^^ c = c := BitVec.zero_xor

@[simp] theorem step_zero : step p 0 = 0 := by simp [step]

@[simp] theorem steps_zero (k : Nat) : steps p k 0 = 0 := by
  induction k with
  | zero => rfl
  | succ k ih => rw [steps, step_zero, ih]

theorem unit_xor (a b : Bool) : (unit (a ^^ b) : BitVec w) = unit a ^^^ unit b := by
  cases a <;> cases b <;> simp [unit]

theorem feed_xor (c d : BitVec w) (a b : Bool) : feed p (c ^^^ d) (a ^^ b) = feed p c a ^^^ feed p d b := by
  rw [feed, feed, feed, ← step_xor, unit_xor]
  congr 1
  rw [BitVec.xor_assoc, BitVec.xor_assoc, ← BitVec.xor_assoc d, ← BitVec.xor_assoc (unit a),
    BitVec.xor_comm d (unit a)]

@[simp] theorem run_nil (c : BitVec w) : run p c [] = c := rfl

@[simp] theorem run_cons (c : BitVec w) (b : Bool) (bits : List Bool) :
    run p c (b :: bits) = run p (feed p c b) bits := rfl

theorem run_append (c : BitVec w) (xs ys : List Bool) : run p c (xs ++ ys) = run p (run p c xs) ys :=
  List.foldl_append

/-- **Linearity.** The register after a message with errors is the register after the message, moved by
what the errors alone make of an empty register. -/
theorem run_xor (c d : BitVec w) {xs ys : List Bool} (h : xs.length = ys.length) :
    run p (c ^^^ d) (List.zipWith xor xs ys) = run p c xs ^^^ run p d ys := by
  induction xs generalizing c d ys with
  | nil =>
    cases ys with
    | nil => rfl
    | cons y ys => simp at h
  | cons x xs ih =>
    cases ys with
    | nil => simp at h
    | cons y ys =>
      rw [List.zipWith_cons_cons, run_cons, feed_xor, ih _ _ (by simpa using h), run_cons, run_cons]

/-- Without errors only the shifts are left. -/
theorem run_replicate_false (k : Nat) (c : BitVec w) : run p c (List.replicate k false) = steps p k c := by
  induction k generalizing c with
  | zero => rfl
  | succ k ih =>
    rw [List.replicate_succ, run_cons, ih, steps, feed]
    simp [unit]

end Linear

/-! ## §2 — messages of at most `w` bits. -/

theorem getLsbD_unit (b : Bool) (i : Nat) : (unit b : BitVec w).getLsbD i = (b && decide (i = 0 ∧ 0 < w)) := by
  cases b with
  | false => simp [unit]
  | true =>
    rw [unit, if_pos rfl]
    show (1#w).getLsbD i = _
    rw [BitVec.getLsbD_one]
    grind

theorem getLsbD_word (bits : List Bool) {i : Nat} (hi : i < w) :
    (word bits : BitVec w).getLsbD i = bits.getD i false := by
  induction bits generalizing i with
  | nil => simp [word]
  | cons b bits ih =>
    rw [word, BitVec.getLsbD_xor, getLsbD_unit, BitVec.getLsbD_shiftLeft]
    cases i with
    | zero => simp [hi]
    | succ i => simp [hi, ih (by omega : i < w)]

/-- A register whose top bit is clear, one place up, comes back with one shift. -/
theorem step_shiftLeft (p : BitVec w) {c : BitVec w} (hc : c.getLsbD (w - 1) = false) : step p (c <<< 1) = c := by
  have hlow : (c <<< 1).getLsbD 0 = false := by simp
  rw [step, if_neg (by simp [hlow])]
  apply BitVec.eq_of_getLsbD_eq
  intro i hi
  rw [BitVec.getLsbD_ushiftRight, BitVec.getLsbD_shiftLeft]
  by_cases htop : i = w - 1
  · subst htop
    have : ¬ (1 + (w - 1) < w) := by omega
    simp [hc, this]
  · have : 1 + i < w := by omega
    simp [this]

/-- **Short messages.** At most `w` bits may be added all at once, before the shifts. -/
theorem run_eq_steps (p c : BitVec w) {bits : List Bool} (h : bits.length ≤ w) :
    run p c bits = steps p bits.length (c ^^^ word bits) := by
  induction bits generalizing c with
  | nil => simp [word, steps]
  | cons b bits ih =>
    rw [List.length_cons] at h
    have htop : (word bits : BitVec w).getLsbD (w - 1) = false := by
      rw [getLsbD_word _ (by omega), List.getD_eq_getElem?_getD, List.getElem?_eq_none (by omega)]
      rfl
    rw [run_cons, ih _ (by omega), List.length_cons, steps, feed, word, ← BitVec.xor_assoc, step_xor p (c ^^^ unit b),
      step_shiftLeft p htop]

/-! ## §3 — no shift forgets. -/

section Injective

variable {p : BitVec w} (hp : p.msb = true)

include hp

theorem step_eq_zero {c : BitVec w} (h : step p c = 0) : c = 0 := by
  have hw : 0 < w := by
    rcases Nat.eq_zero_or_pos w with rfl | hw
    · simp [BitVec.msb] at hp
    · exact hw
  rw [BitVec.msb_eq_getLsbD_last] at hp
  unfold step at h
  split at h
  · -- the top bit of the sum is that of the polynomial
    have htop := congrArg (fun x => x.getLsbD (w - 1)) h
    simp only [BitVec.getLsbD_xor, BitVec.getLsbD_ushiftRight, hp] at htop
    rw [BitVec.getLsbD_of_ge c (1 + (w - 1)) (by omega)] at htop
    simp at htop
  · rename_i hlow
    apply BitVec.eq_of_getLsbD_eq
    intro i hi
    cases i with
    | zero => simpa using hlow
    | succ i =>
      have hbit := congrArg (fun x => x.getLsbD i) h
      simpa [BitVec.getLsbD_ushiftRight, Nat.add_comm] using hbit

theorem steps_eq_zero {k : Nat} {c : BitVec w} (h : steps p k c = 0) : c = 0 := by
  induction k generalizing c with
  | zero => exact h
  | succ k ih => exact step_eq_zero hp (ih h)

end Injective

/-! ### Periods. -/

/-- None of the next `k` shifts makes the register `target`. -/
def avoids (p target : BitVec w) : Nat → BitVec w → Bool
  | 0, _ => true
  | k + 1, c => step p c != target && avoids p target k (step p c)

/-- A run of shifts that was checked has no period in it. -/
theorem steps_ne_of_avoids {p target : BitVec w} :
    ∀ (k : Nat) (c : BitVec w), avoids p target k c = true → ∀ d, 0 < d → d ≤ k → steps p d c ≠ target := by
  intro k
  induction k with
  | zero => intro c _ d h0 hd; omega
  | succ k ih =>
    intro c h d h0 hd
    rw [avoids, Bool.and_eq_true, bne_iff_ne] at h
    obtain ⟨d, rfl⟩ : ∃ d', d = d' + 1 := ⟨d - 1, by omega⟩
    cases d with
    | zero => exact h.1
    | succ d => exact ih _ h.2 (d + 1) d.succ_pos (by omega)

/-! ## §4 — errors. -/

/-- Every message without a one is a row of zeros. -/
theorem eq_replicate_of_count {e : List Bool} (h : e.count true = 0) : e = List.replicate e.length false := by
  apply List.eq_replicate_of_mem
  intro b hb
  cases b with
  | false => rfl
  | true => exact absurd hb (List.count_eq_zero.mp h)

/-- A message with ones, split at the first of them. -/
theorem exists_first_one {e : List Bool} {k : Nat} (h : e.count true = k + 1) :
    ∃ i tail, e = List.replicate i false ++ true :: tail ∧ tail.count true = k := by
  induction e with
  | nil => simp at h
  | cons b e ih =>
    cases b with
    | false =>
      obtain ⟨i, tail, he, htail⟩ := ih (by simpa using h)
      exact ⟨i + 1, tail, by rw [List.replicate_succ, List.cons_append, he], htail⟩
    | true => exact ⟨0, e, rfl, by simpa using h⟩

/-! ### Two errors. -/

/-- **Two errors** are detected when no distance inside the message is a period. -/
theorem run_ne_zero_of_two {p : BitVec w} (hp : p.msb = true) {e : List Bool} (h : e.count true = 2)
    (hperiod : ∀ d, 0 < d → d < e.length → steps p d 1 ≠ 1) : run p 0 e ≠ 0 := by
  obtain ⟨i, tail, he, htail⟩ := exists_first_one h
  obtain ⟨d, rest, ht, hrest⟩ := exists_first_one htail
  obtain ⟨k, hk⟩ : ∃ k, rest = List.replicate k false := ⟨_, eq_replicate_of_count hrest⟩
  subst hk ht he
  intro h0
  -- the first error is shifted `d + 1` times before the second one meets it
  have hrun : run p 0 (List.replicate i false ++ true :: (List.replicate d false ++ true :: List.replicate k false)) =
      steps p (k + 1) (steps p (d + 1) 1 ^^^ 1) := by
    rw [run_append, run_replicate_false, steps_zero, run_cons, run_append, run_replicate_false, run_cons,
      run_replicate_false, feed, feed, zero_xor]
    show steps p k (step p (steps p d (step p 1) ^^^ 1)) = _
    rw [steps, steps]
  rw [hrun] at h0
  have hone := BitVec.xor_eq_zero_iff.mp (steps_eq_zero hp h0)
  refine hperiod (d + 1) d.succ_pos ?_ hone
  simp only [List.length_append, List.length_cons, List.length_replicate]
  omega

/-! ### Errors close to each other. -/

/-- **A burst** is detected: errors within `w` consecutive bits. -/
theorem run_ne_zero_of_burst {p : BitVec w} (hp : p.msb = true) {e : List Bool} (hne : e.count true ≠ 0) {i : Nat}
    (hwindow : ∀ j, e[j]? = some true → i ≤ j ∧ j < i + w) : run p 0 e ≠ 0 := by
  have hbefore : e.take i = List.replicate (e.take i).length false := by
    apply List.eq_replicate_of_mem
    intro b hb
    obtain ⟨j, hj⟩ := List.getElem?_of_mem hb
    rw [List.getElem?_take] at hj
    split at hj
    · cases b with
      | false => rfl
      | true =>
        have := hwindow j hj
        omega
    · cases hj
  have hafter : (e.drop i).drop w = List.replicate ((e.drop i).drop w).length false := by
    apply List.eq_replicate_of_mem
    intro b hb
    obtain ⟨j, hj⟩ := List.getElem?_of_mem hb
    rw [List.drop_drop, List.getElem?_drop] at hj
    cases b with
    | false => rfl
    | true =>
      have := hwindow _ hj
      omega
  obtain ⟨burst, hburst⟩ : ∃ burst, burst = (e.drop i).take w := ⟨_, rfl⟩
  have hlen : burst.length ≤ w := by
    rw [hburst, List.length_take]
    omega
  have hsplit : e = e.take i ++ (burst ++ (e.drop i).drop w) := by
    rw [hburst, List.take_append_drop, List.take_append_drop]
  intro h0
  rw [hsplit, run_append, run_append, hbefore, hafter, run_replicate_false, run_replicate_false, steps_zero,
    run_eq_steps p 0 hlen, zero_xor] at h0
  have hword := steps_eq_zero hp (steps_eq_zero hp h0)
  -- so no bit of the burst is set
  have hzero : burst.count true = 0 := by
    rw [List.count_eq_zero]
    intro hmem
    obtain ⟨j, hj⟩ := List.getElem?_of_mem hmem
    have hjlt : j < burst.length := (List.getElem?_eq_some_iff.mp hj).1
    have hbit := getLsbD_word (w := w) burst (i := j) (by omega)
    rw [hword, List.getD_eq_getElem?_getD, hj] at hbit
    simp at hbit
  apply hne
  rw [hsplit, List.count_append, List.count_append, hbefore, hafter, List.count_replicate, List.count_replicate, hzero]
  rfl

/-! ### An odd number of errors. -/

/-- The number of ones of a register, modulo 2. -/
def parity (c : BitVec w) : ZMod 2 := ∑ i ∈ Finset.range w, if c.getLsbD i then 1 else 0

theorem parity_xor (c d : BitVec w) : parity (c ^^^ d) = parity c + parity d := by
  rw [parity, parity, parity, ← Finset.sum_add_distrib]
  apply Finset.sum_congr rfl
  intro i _
  rw [BitVec.getLsbD_xor]
  cases c.getLsbD i <;> cases d.getLsbD i <;> decide

theorem parity_ushiftRight (c : BitVec w) : parity (c >>> 1) + (if c.getLsbD 0 then 1 else 0) = parity c := by
  have hlast := Finset.sum_range_succ (fun i => if c.getLsbD i then (1 : ZMod 2) else 0) w
  rw [Finset.sum_range_succ', BitVec.getLsbD_of_ge c w le_rfl, if_neg Bool.false_ne_true, add_zero] at hlast
  rw [parity, parity, ← hlast]
  congr 1
  apply Finset.sum_congr rfl
  intro i _
  rw [BitVec.getLsbD_ushiftRight, Nat.add_comm]

theorem parity_unit (hw : 0 < w) (b : Bool) : parity (unit b : BitVec w) = if b then 1 else 0 := by
  rw [parity, Finset.sum_eq_single_of_mem 0 (Finset.mem_range.mpr hw)]
  · rw [getLsbD_unit]
    simp [hw]
  · intro i _ hi
    rw [getLsbD_unit]
    simp [hi]

section Parity

variable {p : BitVec w} (hodd : parity p = 1)

include hodd

theorem parity_step (c : BitVec w) : parity (step p c) = parity c := by
  have hshift := parity_ushiftRight c
  unfold step
  split
  · rename_i hlow
    rw [if_pos hlow] at hshift
    rw [parity_xor, hodd, hshift]
  · rename_i hlow
    rw [if_neg hlow, add_zero] at hshift
    exact hshift

theorem parity_run (hw : 0 < w) (c : BitVec w) (e : List Bool) : parity (run p c e) = parity c + (e.count true : ℕ) := by
  induction e generalizing c with
  | nil => simp
  | cons b e ih =>
    rw [run_cons, ih, feed, parity_step hodd, parity_xor, parity_unit hw, add_assoc]
    congr 1
    cases b with
    | false => simp
    | true => simp [add_comm]

/-- **An odd number of errors** is detected when the polynomial has an odd number of ones. -/
theorem run_ne_zero_of_odd {e : List Bool} (h : Odd (e.count true)) : run p 0 e ≠ 0 := by
  have hw : 0 < w := by
    rcases Nat.eq_zero_or_pos w with rfl | hw
    · simp [parity] at hodd
    · exact hw
  intro h0
  have hparity := parity_run hodd hw 0 e
  have hcount : ((e.count true : ℕ) : ZMod 2) = 1 := ZMod.natCast_eq_one_iff_odd.mpr h
  rw [h0, hcount] at hparity
  simp at hparity

end Parity

end SmallModbus.Lib.Lfsr
