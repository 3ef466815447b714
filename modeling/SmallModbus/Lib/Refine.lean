/-
# `SmallModbus.Lib.Refine` — runs of calls explained by an abstract state, and related computations.

`runAll` makes a list of calls one after the other and keeps each result with the state after it.
`Explains` says that these results are the ones an abstract state gives, call by call. A `Simulation` says
this of one call in a state that has the invariant; `Simulation.run` says it of every list of calls.

`Exec.Rel r` relates two computations that stop for the same reason or return results that `r` relates. It
goes through a bind (`Exec.Rel.bind`), so two programs of one shape are related step by step.
-/
import SmallModbus.Lib.Memory

namespace SmallModbus.Lib

/-! ## §1 — runs of calls. -/

section Runs

variable {C R S A : Type}

/-- The calls one after the other: each result with the state after it. -/
def runAll (step : C → S → Exec (R × S)) : List C → S → Exec (List (R × S))
  | [], _ => .ok []
  | c :: cs, s => do
      let x ← step c s
      let trace ← runAll step cs x.2
      return x :: trace

/-- Each result is served from the abstract state before its call, to the abstract state after it. -/
def Explains (abs : S → A) (serves : A → C → R → A → Prop) : A → List C → List (R × S) → Prop
  | _, [], [] => True
  | a, c :: cs, x :: trace => serves a c x.1 (abs x.2) ∧ Explains abs serves (abs x.2) cs trace
  | _, _, _ => False

/-- A call that is allowed, in a state with the invariant, returns what the abstract state serves, and
the invariant holds again. -/
structure Simulation (step : C → S → Exec (R × S)) (abs : S → A) (serves : A → C → R → A → Prop)
    (allowed : C → Prop) (inv : S → Prop) : Prop where
  step : ∀ c s, allowed c → inv s → ∃ x, step c s = .ok x ∧ inv x.2 ∧ serves (abs s) c x.1 (abs x.2)

/-- **Runs of calls.** The induction is on the calls, the invariant carries it. -/
theorem Simulation.run {step : C → S → Exec (R × S)} {abs : S → A} {serves : A → C → R → A → Prop}
    {allowed : C → Prop} {inv : S → Prop} (h : Simulation step abs serves allowed inv) :
    ∀ (cs : List C) (s : S), (∀ c ∈ cs, allowed c) → inv s →
      ∃ trace, runAll step cs s = .ok trace ∧ Explains abs serves (abs s) cs trace ∧
        ∀ x ∈ trace, inv x.2 := by
  intro cs
  induction cs with
  | nil =>
    intro s _ _
    refine ⟨[], rfl, trivial, ?_⟩
    rintro x ⟨⟩
  | cons c cs ih =>
    intro s hcs hinv
    obtain ⟨x, hstep, hinv', hserves⟩ := h.step c s (hcs c List.mem_cons_self) hinv
    obtain ⟨trace, hrun, hexplains, hall⟩ := ih x.2 (fun c' hc' => hcs c' (List.mem_cons_of_mem c hc')) hinv'
    refine ⟨x :: trace, ?_, ⟨hserves, hexplains⟩, ?_⟩
    · rw [runAll, hstep, exec_ok_bind, hrun, exec_ok_bind]
      rfl
    · intro y hy
      rcases List.mem_cons.mp hy with rfl | hy
      · exact hinv'
      · exact hall y hy

/-- **Runs that return.** Where the steps that return are served, so are the runs that return. -/
theorem Explains.of_run {step : C → S → Exec (R × S)} {abs : S → A} {serves : A → C → R → A → Prop} (inv : S → Prop)
    (h : ∀ c s x, inv s → step c s = .ok x → inv x.2 ∧ serves (abs s) c x.1 (abs x.2)) {cs : List C} {s : S}
    {trace : List (R × S)} (hinv : inv s) (hrun : runAll step cs s = .ok trace) :
    Explains abs serves (abs s) cs trace ∧ ∀ x ∈ trace, inv x.2 := by
  induction cs generalizing s trace with
  | nil =>
    cases hrun
    simp [Explains]
  | cons c cs ih =>
    obtain ⟨x, hstep, hrun⟩ := bind_eq_ok.mp hrun
    obtain ⟨tail, htail, hrun⟩ := bind_eq_ok.mp hrun
    cases hrun
    obtain ⟨hinv', hserves⟩ := h c s x hinv hstep
    obtain ⟨hexplains, hall⟩ := ih hinv' htail
    exact ⟨⟨hserves, hexplains⟩, List.forall_mem_cons.mpr ⟨hinv', hall⟩⟩

/-- The abstract state after a run whose calls act on it as a function. -/
theorem Explains.foldl {abs : S → A} {act : A → C → A} {a : A} {cs : List C} {trace : List (R × S)}
    (h : Explains abs (fun a c _ a' => a' = act a c) a cs trace) :
    (trace.map fun x => abs x.2) = (List.range cs.length).map fun i => (cs.take (i + 1)).foldl act a := by
  induction cs generalizing a trace with
  | nil =>
    cases trace with
    | nil => rfl
    | cons x trace => exact h.elim
  | cons c cs ih =>
    cases trace with
    | nil => exact h.elim
    | cons x trace =>
      obtain ⟨hserves, hrest⟩ := h
      rw [List.map_cons, ih hrest, List.length_cons, List.range_succ_eq_map, List.map_cons, List.map_map, hserves]
      rfl

end Runs

/-! ## §2 — related computations. -/

/-- Both stop for the same reason, or both return and the results are related. -/
inductive Exec.Rel {α β : Type} (r : α → β → Prop) : Exec α → Exec β → Prop
  | error (e : Halt) : Rel r (.error e) (.error e)
  | ok {a : α} {b : β} : r a b → Rel r (.ok a) (.ok b)

namespace Exec.Rel

variable {α β γ δ : Type} {r : α → β → Prop} {x : Exec α} {y : Exec β}

/-- A computation and itself. -/
theorem refl (x : Exec α) : Exec.Rel Eq x x := by
  cases x with
  | error e => exact .error e
  | ok a => exact .ok rfl

/-- Related computations followed by related ones. -/
theorem bind {r' : γ → δ → Prop} {f : α → Exec γ} {g : β → Exec δ} (h : Exec.Rel r x y)
    (hfg : ∀ a b, r a b → Exec.Rel r' (f a) (g b)) : Exec.Rel r' (x >>= f) (y >>= g) := by
  cases h with
  | error e => exact .error e
  | ok hab => exact hfg _ _ hab

/-- The same computation, followed by related ones. -/
theorem bind_same {r' : γ → δ → Prop} (x : Exec α) {f : α → Exec γ} {g : α → Exec δ}
    (hfg : ∀ a, Exec.Rel r' (f a) (g a)) : Exec.Rel r' (x >>= f) (x >>= g) := by
  refine (refl x).bind ?_
  rintro a _ rfl
  exact hfg a

/-- What related results have in common. -/
theorem map_eq {f : α → γ} {g : β → γ} (h : Exec.Rel r x y) (hfg : ∀ a b, r a b → f a = g b) : x.map f = y.map g := by
  cases h with
  | error e => rfl
  | ok hab => exact congrArg Except.ok (hfg _ _ hab)

/-- When one returns, so does the other. -/
theorem of_ok {a : α} (h : Exec.Rel r (.ok a) y) : ∃ b, y = .ok b ∧ r a b := by
  cases h with
  | ok hab => exact ⟨_, rfl, hab⟩

end Exec.Rel

end SmallModbus.Lib
