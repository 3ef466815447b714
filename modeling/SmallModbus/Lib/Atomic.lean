/-
# `SmallModbus.Lib.Atomic` — clients that share a memory, and what it is for them to share it atomically.

What is seen of such a system are events: a client calls, its call takes effect, the result is returned to it, and the
memory is updated from elsewhere. `AtomicObject` is the system in which a call takes effect at once, at some moment
between its invocation and its return.

A history is the list of the effects alone. `Linearizes` says that it explains the events: at any time what has been
returned was in effect, and what was in effect had been called. So the effects are in an order that respects the order
in which calls that do not overlap were made. Every trace of an `AtomicObject` has such a history, in which each effect
is the one of its memory (`AtomicObject.linearizable`).

A system is atomic if its steps are steps of an `AtomicObject`; `Trace.refines` carries this from steps to traces.
-/
import Mathlib.Logic.Function.Basic

namespace SmallModbus.Lib

/-! ## §1 — traces. -/

/-- A run of a system that shows these events. -/
inductive Trace {S E : Type} (step : S → List E → S → Prop) : S → List E → S → Prop
  | refl (s : S) : Trace step s [] s
  | tail {s s' s'' : S} {es es' : List E} : Trace step s es s' → step s' es' s'' → Trace step s (es ++ es') s''

namespace Trace

variable {S T E : Type} {step : S → List E → S → Prop} {step₂ : T → List E → T → Prop}

theorem single {s s' : S} {es : List E} (h : step s es s') : Trace step s es s' := by
  have htrace := tail (refl s) h
  rwa [List.nil_append] at htrace

theorem trans {s s' s'' : S} {es es' : List E} (h : Trace step s es s') (h' : Trace step s' es' s'') :
    Trace step s (es ++ es') s'' := by
  induction h' with
  | refl => simpa using h
  | tail _ hstep ih => simpa using ih.tail hstep

/-- **A simulation of steps is one of traces.** -/
theorem refines {rel : S → T → Prop}
    (hsim : ∀ s t es s', rel s t → step s es s' → ∃ t', Trace step₂ t es t' ∧ rel s' t') {s s' : S} {t : T}
    {es : List E} (hrel : rel s t) (h : Trace step s es s') : ∃ t', Trace step₂ t es t' ∧ rel s' t' := by
  induction h with
  | refl => exact ⟨t, refl t, hrel⟩
  | tail _ hstep ih =>
    obtain ⟨t', htrace, hrel'⟩ := ih
    obtain ⟨t'', htrace', hrel''⟩ := hsim _ t' _ _ hrel' hstep
    exact ⟨t'', htrace.trans htrace', hrel''⟩

end Trace

/-! ## §2 — events and effects. -/

variable {I C R U A : Type}

/-- What is seen of clients `I` that make calls `C` with results `R`, and of updates `U`. -/
inductive Event (I C R U : Type)
  | call (i : I) (c : C)
  | serve (i : I)
  | ret (i : I) (r : R)
  | update (u : U)
  deriving DecidableEq, Repr

/-- A call that took effect with this result, or an update. -/
inductive Effect (I C R U : Type)
  | serve (i : I) (c : C) (r : R)
  | update (u : U)
  deriving DecidableEq, Repr

namespace Event

variable [DecidableEq I] (i : I)

/-- The calls of a client. -/
def calls (es : List (Event I C R U)) : List C :=
  es.filterMap fun
    | .call j c => if j = i then some c else none
    | _ => none

/-- The results returned to a client. -/
def returns (es : List (Event I C R U)) : List R :=
  es.filterMap fun
    | .ret j r => if j = i then some r else none
    | _ => none

omit [DecidableEq I] in
/-- The updates among the events. -/
def updates (es : List (Event I C R U)) : List U :=
  es.filterMap fun
    | .update u => some u
    | _ => none

end Event

namespace Effect

variable [DecidableEq I] (i : I)

/-- The calls of a client that took effect. -/
def served (history : List (Effect I C R U)) : List C :=
  history.filterMap fun
    | .serve j c _ => if j = i then some c else none
    | _ => none

/-- Their results. -/
def results (history : List (Effect I C R U)) : List R :=
  history.filterMap fun
    | .serve j _ r => if j = i then some r else none
    | _ => none

omit [DecidableEq I] in
/-- The updates among the effects. -/
def updates (history : List (Effect I C R U)) : List U :=
  history.filterMap fun
    | .update u => some u
    | _ => none

end Effect

/-- The effects come to these events: at any time what has been returned to a client was in effect, in this order and
with these results, and what was in effect the client had called, in this order. -/
def Linearizes [DecidableEq I] (es : List (Event I C R U)) (history : List (Effect I C R U)) : Prop :=
  ∀ seen, seen <+: es → ∃ past, past <+: history ∧ Event.updates seen = Effect.updates past ∧
    ∀ i, Event.returns i seen <+: Effect.results i past ∧ Effect.served i past <+: Event.calls i seen

/-- One effect after the other on a memory. -/
inductive Sequential (serves : A → C → R → A → Prop) (acts : A → U → A → Prop) :
    A → List (Effect I C R U) → A → Prop
  | refl (a : A) : Sequential serves acts a [] a
  | serve {a a' a'' : A} {history : List (Effect I C R U)} {i : I} {c : C} {r : R} :
      Sequential serves acts a history a' → serves a' c r a'' →
      Sequential serves acts a (history ++ [.serve i c r]) a''
  | update {a a' a'' : A} {history : List (Effect I C R U)} {u : U} :
      Sequential serves acts a history a' → acts a' u a'' → Sequential serves acts a (history ++ [.update u]) a''

/-! ## §3 — the atomic object. -/

/-- What a client waits for: nothing, or that its call takes effect, or this result. -/
inductive Status (C R : Type)
  | idle
  | asked (c : C)
  | answered (r : R)

/-- A memory and the clients that share it. -/
structure AtomicObject (I C R A : Type) where
  memory : A
  status : I → Status C R

namespace AtomicObject

/-- A call takes effect at once, between its invocation and its return. -/
inductive Step [DecidableEq I] (serves : A → C → R → A → Prop) (acts : A → U → A → Prop) :
    AtomicObject I C R A → List (Event I C R U) → AtomicObject I C R A → Prop
  | call {s : AtomicObject I C R A} {i : I} {c : C} :
      s.status i = .idle → Step serves acts s [.call i c] ⟨s.memory, Function.update s.status i (.asked c)⟩
  | serve {s : AtomicObject I C R A} {i : I} {c : C} {r : R} {a : A} :
      s.status i = .asked c → serves s.memory c r a →
      Step serves acts s [.serve i] ⟨a, Function.update s.status i (.answered r)⟩
  | ret {s : AtomicObject I C R A} {i : I} {r : R} :
      s.status i = .answered r → Step serves acts s [.ret i r] ⟨s.memory, Function.update s.status i .idle⟩
  | update {s : AtomicObject I C R A} {u : U} {a : A} :
      acts s.memory u a → Step serves acts s [.update u] ⟨a, s.status⟩

/-- How far the effects of a client are ahead of what was returned to it, and behind what it called. -/
def Balanced : Status C R → (calls served : List C) → (results returns : List R) → Prop
  | .idle, calls, served, results, returns => calls = served ∧ results = returns
  | .asked c, calls, served, results, returns => calls = served ++ [c] ∧ results = returns
  | .answered r, calls, served, results, returns => calls = served ∧ results = returns ++ [r]

theorem Balanced.between {status : Status C R} {calls served : List C} {results returns : List R}
    (h : Balanced status calls served results returns) : returns <+: results ∧ served <+: calls := by
  cases status with
  | idle =>
    obtain ⟨rfl, rfl⟩ := h
    simp
  | asked c =>
    obtain ⟨rfl, rfl⟩ := h
    simp
  | answered r =>
    obtain ⟨rfl, rfl⟩ := h
    simp

variable [DecidableEq I]

/-- The effects of this history brought the object here, and they explain the events. -/
structure Explained (serves : A → C → R → A → Prop) (acts : A → U → A → Prop) (a : A) (es : List (Event I C R U))
    (history : List (Effect I C R U)) (s : AtomicObject I C R A) : Prop where
  sequential : Sequential serves acts a history s.memory
  linearizes : Linearizes es history
  updates : Event.updates es = Effect.updates history
  balanced : ∀ i, Balanced (s.status i) (Event.calls i es) (Effect.served i history) (Effect.results i history)
    (Event.returns i es)

variable {serves : A → C → R → A → Prop} {acts : A → U → A → Prop} {a : A} {es es' : List (Event I C R U)}
  {history history' : List (Effect I C R U)} {s s' : AtomicObject I C R A}

/-- One more event is explained by effects that agree with it. -/
theorem Explained.snoc (h : Explained serves acts a es history s) (e : Event I C R U) (hpast : history <+: history')
    (hseq : Sequential serves acts a history' s'.memory)
    (hupdates : Event.updates (es ++ [e]) = Effect.updates history')
    (hbalanced : ∀ i, Balanced (s'.status i) (Event.calls i (es ++ [e])) (Effect.served i history')
      (Effect.results i history') (Event.returns i (es ++ [e]))) : Explained serves acts a (es ++ [e]) history' s' := by
  refine ⟨hseq, ?_, hupdates, hbalanced⟩
  intro seen hseen
  rcases List.prefix_concat_iff.mp hseen with rfl | hseen
  · exact ⟨history', List.prefix_rfl, hupdates, fun i => (hbalanced i).between⟩
  · obtain ⟨past, hle, hexplains⟩ := h.linearizes seen hseen
    exact ⟨past, hle.trans hpast, hexplains⟩

/-- A step is explained by the effects so far, and its own if it has one. The other clients do not notice it. -/
theorem Explained.step (h : Explained serves acts a es history s) (hstep : Step serves acts s es' s') :
    ∃ history', Explained serves acts a (es ++ es') history' s' := by
  have hupdates := h.updates
  cases hstep with
  | @call i c hidle =>
    refine ⟨history, h.snoc _ List.prefix_rfl h.sequential (by simpa [Event.updates] using hupdates) ?_⟩
    intro j
    have hj := h.balanced j
    by_cases hij : i = j
    · subst hij
      rw [hidle] at hj
      simpa [Balanced, Event.calls, Event.returns] using hj
    · simpa [Function.update_of_ne (Ne.symm hij), Event.calls, Event.returns, hij] using hj
  | @serve i c r a' hasked hserves =>
    refine ⟨_, h.snoc _ (List.prefix_append _ _) (h.sequential.serve (i := i) hserves)
      (by simpa [Event.updates, Effect.updates] using hupdates) ?_⟩
    intro j
    have hj := h.balanced j
    by_cases hij : i = j
    · subst hij
      rw [hasked] at hj
      simpa [Balanced, Event.calls, Event.returns, Effect.served, Effect.results] using hj
    · simpa [Function.update_of_ne (Ne.symm hij), Event.calls, Event.returns, Effect.served, Effect.results, hij]
        using hj
  | @ret i r hanswered =>
    refine ⟨history, h.snoc _ List.prefix_rfl h.sequential (by simpa [Event.updates] using hupdates) ?_⟩
    intro j
    have hj := h.balanced j
    by_cases hij : i = j
    · subst hij
      rw [hanswered] at hj
      simpa [Balanced, Event.calls, Event.returns] using hj
    · simpa [Function.update_of_ne (Ne.symm hij), Event.calls, Event.returns, hij] using hj
  | @update u a' hacts =>
    refine ⟨_, h.snoc _ (List.prefix_append _ _) (h.sequential.update hacts)
      (by simpa [Event.updates, Effect.updates] using hupdates) ?_⟩
    intro j
    simpa [Event.calls, Event.returns, Effect.served, Effect.results] using h.balanced j

/-- **Every trace of an atomic object is linearizable**: it has a sequential history of effects. -/
theorem linearizable (hidle : ∀ i, s.status i = .idle) (h : Trace (Step serves acts) s es s') :
    ∃ history, Explained serves acts s.memory es history s' := by
  induction h with
  | refl =>
    refine ⟨[], .refl _, ?_, rfl, ?_⟩
    · intro seen hseen
      rw [List.prefix_nil.mp hseen]
      exact ⟨[], List.prefix_rfl, rfl, fun i => ⟨List.prefix_rfl, List.prefix_rfl⟩⟩
    · intro i
      rw [hidle i]
      exact ⟨rfl, rfl⟩
  | tail _ hstep ih =>
    obtain ⟨history, hexplained⟩ := ih
    exact hexplained.step hstep

end AtomicObject

end SmallModbus.Lib
