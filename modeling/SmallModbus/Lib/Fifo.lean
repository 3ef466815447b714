/-
# `SmallModbus.Lib.Fifo` — bounded first-in first-out buffers, and the record of what went through one.

A `Fifo ρ α cap` is an implementation `ρ` of a queue of at most `cap` items: `content` is the queue it
stands for, oldest item first, and each operation does to the content what the queue operation does. A put
takes the items that fit and drops the rest.

`Fifo.traced` is the same buffer with a record of its operations. Nothing is lost inside it: what was stored
is what came out, in order, followed by what is still there (`Fifo.Balanced`). If every put found the buffer
empty, what was offered was stored exactly if no put was longer than the buffer (`Event.flatMap_stored_iff`).
-/
import Mathlib.Data.List.Basic

namespace SmallModbus.Lib

/-- A buffer for at most `cap` items, with the queue it stands for. -/
structure Fifo (ρ α : Type) (cap : Nat) where
  content : ρ → List α
  dataLen : ρ → Nat
  put : ρ → List α → ρ
  get : ρ → Nat → List α × ρ
  reset : ρ → ρ
  content_le : ∀ r, (content r).length ≤ cap
  dataLen_eq : ∀ r, dataLen r = (content r).length
  content_put : ∀ r as, content (put r as) = content r ++ as.take (cap - (content r).length)
  get_items : ∀ r k, (get r k).1 = (content r).take k
  content_get : ∀ r k, content (get r k).2 = (content r).drop k
  content_reset : ∀ r, content (reset r) = []

namespace Fifo

variable {ρ α : Type} {cap : Nat}

/-! ## §1 — the queue itself. -/

/-- The lists of at most `cap` items. -/
def ofList (α : Type) (cap : Nat) : Fifo {l : List α // l.length ≤ cap} α cap where
  content l := l.1
  dataLen l := l.1.length
  put l as := ⟨l.1 ++ as.take (cap - l.1.length), by
    have hl := l.2
    rw [List.length_append, List.length_take]
    omega⟩
  get l k := (l.1.take k, ⟨l.1.drop k, by
    have hl := l.2
    rw [List.length_drop]
    omega⟩)
  reset _ := ⟨[], Nat.zero_le cap⟩
  content_le l := l.2
  dataLen_eq _ := rfl
  content_put _ _ := rfl
  get_items _ _ := rfl
  content_get _ _ := rfl
  content_reset _ := rfl

/-- What fits into an empty buffer is stored as it is. -/
theorem content_put_empty (R : Fifo ρ α cap) {r : ρ} {as : List α} (hr : R.content r = [])
    (has : as.length ≤ cap) : R.content (R.put r as) = as := by
  rw [R.content_put, hr, List.nil_append, List.length_nil, Nat.sub_zero]
  exact List.take_of_length_le has

/-! ## §2 — the record of the operations. -/

/-- One operation: what the buffer held when it was made, and the items it was about. -/
inductive Event (α : Type)
  /-- a put of these items into a buffer with this content -/
  | put (held items : List α)
  /-- a get that took these items -/
  | get (items : List α)
  /-- a reset that threw these items away -/
  | reset (items : List α)
  deriving DecidableEq, Repr

namespace Event

/-- The items of a put that fit. -/
def stored (cap : Nat) : Event α → List α
  | put held items => items.take (cap - held.length)
  | _ => []

/-- The items that left the buffer. -/
def out : Event α → List α
  | put _ _ => []
  | get items => items
  | reset items => items

/-- The items that were put, whether they fit or not. -/
def offered : Event α → List α
  | put _ items => items
  | _ => []

/-- The items that a get took. -/
def taken : Event α → List α
  | get items => items
  | _ => []

/-- The items of a put as one block. -/
def block : Event α → Option (List α)
  | put _ items => some items
  | _ => none

/-- What the buffer held when something was put into it. -/
def held : Event α → List α
  | put held _ => held
  | _ => []

theorem flatMap_offered (es : List (Event α)) : es.flatMap offered = (es.filterMap block).flatten := by
  induction es with
  | nil => rfl
  | cons e es ih =>
    rw [List.flatMap_cons, ih]
    cases e <;> rfl

/-- What is offered is a block, or nothing. -/
theorem offered_le_iff {es : List (Event α)} {k : Nat} :
    (∀ e ∈ es, e.offered.length ≤ k) ↔ ∀ c ∈ es.filterMap block, c.length ≤ k := by
  constructor
  · intro h c hc
    obtain ⟨e, he, hblock⟩ := List.mem_filterMap.mp hc
    have hle := h e he
    cases e with
    | put held items =>
      obtain rfl := Option.some.inj hblock
      exact hle
    | get items => cases hblock
    | reset items => cases hblock
  · intro h e he
    cases e with
    | put held items => exact h items (List.mem_filterMap.mpr ⟨_, he, rfl⟩)
    | get items => exact Nat.zero_le k
    | reset items => exact Nat.zero_le k

/-- A put into an empty buffer stores what fits. -/
theorem stored_of_held (cap : Nat) {e : Event α} (h : e.held = []) : e.stored cap = e.offered.take cap := by
  cases e with
  | put held items =>
    obtain rfl : held = [] := h
    rfl
  | get items => exact List.take_nil.symm
  | reset items => exact List.take_nil.symm

theorem length_stored_le (cap : Nat) (e : Event α) : (e.stored cap).length ≤ e.offered.length := by
  cases e with
  | put held items => exact List.length_take_le' _ _
  | get items => exact Nat.le_refl _
  | reset items => exact Nat.le_refl _

theorem length_flatMap_stored_le (cap : Nat) (es : List (Event α)) :
    (es.flatMap (stored cap)).length ≤ (es.flatMap offered).length := by
  induction es with
  | nil => exact Nat.le_refl _
  | cons e es ih =>
    have := length_stored_le cap e
    simp only [List.flatMap_cons, List.length_append]
    omega

/-- **What is lost.** When every put finds the buffer empty, nothing is lost exactly if every put fits. -/
theorem flatMap_stored_iff {es : List (Event α)} (h : ∀ e ∈ es, e.held = []) :
    es.flatMap (stored cap) = es.flatMap offered ↔ ∀ e ∈ es, e.offered.length ≤ cap := by
  induction es with
  | nil => simp
  | cons e es ih =>
    have he := stored_of_held cap (h e List.mem_cons_self)
    have ih := ih fun e' he' => h e' (List.mem_cons_of_mem e he')
    have hrest := length_flatMap_stored_le cap es
    simp only [List.flatMap_cons, List.forall_mem_cons]
    rw [he, ← ih]
    constructor
    · intro heq
      have hlen := congrArg List.length heq
      simp only [List.length_append, List.length_take] at hlen
      have hfit : e.offered.length ≤ cap := by omega
      rw [List.take_of_length_le hfit] at heq
      exact ⟨hfit, List.append_cancel_left heq⟩
    · rintro ⟨hfit, heq⟩
      rw [List.take_of_length_le hfit, heq]

end Event

/-- The buffer with the record of its operations, the first one first. -/
def traced (R : Fifo ρ α cap) : Fifo (ρ × List (Event α)) α cap where
  content r := R.content r.1
  dataLen r := R.dataLen r.1
  put r as := (R.put r.1 as, r.2 ++ [.put (R.content r.1) as])
  get r k := ((R.get r.1 k).1, (R.get r.1 k).2, r.2 ++ [.get (R.get r.1 k).1])
  reset r := (R.reset r.1, r.2 ++ [.reset (R.content r.1)])
  content_le r := R.content_le r.1
  dataLen_eq r := R.dataLen_eq r.1
  content_put r := R.content_put r.1
  get_items r := R.get_items r.1
  content_get r := R.content_get r.1
  content_reset r := R.content_reset r.1

section Traced

variable (R : Fifo ρ α cap) {f : Event α → List α}

/-- A put adds nothing to what the record says of other operations. -/
theorem flatMap_put (hf : ∀ held items, f (.put held items) = []) (r : ρ × List (Event α)) (as : List α) :
    (R.traced.put r as).2.flatMap f = r.2.flatMap f := by
  show (r.2 ++ [Event.put (R.content r.1) as]).flatMap f = _
  rw [List.flatMap_append, List.flatMap_singleton, hf, List.append_nil]

/-- A get adds what it took to what the record says of gets. -/
theorem flatMap_get (hf : ∀ items, f (.get items) = items) (r : ρ × List (Event α)) (k : Nat) :
    (R.traced.get r k).2.2.flatMap f = r.2.flatMap f ++ (R.traced.get r k).1 := by
  show (r.2 ++ [Event.get (R.get r.1 k).1]).flatMap f = _
  rw [List.flatMap_append, List.flatMap_singleton, hf]
  rfl

end Traced

/-- What was stored is what came out, followed by what is still there. -/
def Balanced (R : Fifo ρ α cap) (r : ρ × List (Event α)) : Prop :=
  r.2.flatMap (Event.stored cap) = r.2.flatMap Event.out ++ R.content r.1

section Balanced

variable {R : Fifo ρ α cap} {r : ρ × List (Event α)}

/-- An empty buffer without a record. -/
theorem balanced_empty {r : ρ} (h : R.content r = []) : R.Balanced (r, []) := h.symm

theorem Balanced.put (h : R.Balanced r) (as : List α) : R.Balanced (R.traced.put r as) := by
  have hr : r.2.flatMap (Event.stored cap) = r.2.flatMap Event.out ++ R.content r.1 := h
  show (r.2 ++ [Event.put (R.content r.1) as]).flatMap (Event.stored cap) =
    (r.2 ++ [Event.put (R.content r.1) as]).flatMap Event.out ++ R.content (R.put r.1 as)
  rw [List.flatMap_append, List.flatMap_append, hr, R.content_put]
  simp [Event.stored, Event.out]

theorem Balanced.get (h : R.Balanced r) (k : Nat) : R.Balanced (R.traced.get r k).2 := by
  have hr : r.2.flatMap (Event.stored cap) = r.2.flatMap Event.out ++ R.content r.1 := h
  show (r.2 ++ [Event.get (R.get r.1 k).1]).flatMap (Event.stored cap) =
    (r.2 ++ [Event.get (R.get r.1 k).1]).flatMap Event.out ++ R.content (R.get r.1 k).2
  rw [List.flatMap_append, List.flatMap_append, hr, R.get_items, R.content_get]
  simp [Event.stored, Event.out]

theorem Balanced.reset (h : R.Balanced r) : R.Balanced (R.traced.reset r) := by
  have hr : r.2.flatMap (Event.stored cap) = r.2.flatMap Event.out ++ R.content r.1 := h
  show (r.2 ++ [Event.reset (R.content r.1)]).flatMap (Event.stored cap) =
    (r.2 ++ [Event.reset (R.content r.1)]).flatMap Event.out ++ R.content (R.reset r.1)
  rw [List.flatMap_append, List.flatMap_append, hr, R.content_reset]
  simp [Event.stored, Event.out]

end Balanced

/-! ## §3 — puts into an empty buffer. -/

/-- The record of a buffer that was empty at every put; `blocks` are the puts, in order. -/
structure Supplied (R : Fifo ρ α cap) (r : ρ × List (Event α)) (blocks : List (List α)) : Prop where
  balanced : R.Balanced r
  held : ∀ e ∈ r.2, e.held = []
  blocks_eq : r.2.filterMap Event.block = blocks

namespace Supplied

variable {R : Fifo ρ α cap} {r : ρ × List (Event α)} {blocks : List (List α)}

theorem empty {ring : ρ} (h : R.content ring = []) : R.Supplied (ring, []) [] :=
  ⟨balanced_empty h, by simp, rfl⟩

/-- **What was put is what came out and what is still there**, exactly if every block fits the buffer. -/
theorem lossless_iff (h : R.Supplied r blocks) :
    blocks.flatten = r.2.flatMap Event.out ++ R.content r.1 ↔ ∀ c ∈ blocks, c.length ≤ cap := by
  have hb : r.2.flatMap (Event.stored cap) = r.2.flatMap Event.out ++ R.content r.1 := h.balanced
  rw [← hb, ← h.blocks_eq, ← Event.flatMap_offered, ← Event.offered_le_iff, eq_comm]
  exact Event.flatMap_stored_iff h.held

/-- If every block fits, every put was stored whole. -/
theorem stored_eq (h : R.Supplied r blocks) (hfit : ∀ c ∈ blocks, c.length ≤ cap) :
    ∀ e ∈ r.2, e.held = [] ∧ e.stored cap = e.offered := by
  intro e he
  have hheld := h.held e he
  have hle := Event.offered_le_iff.mpr (h.blocks_eq.symm ▸ hfit) e he
  exact ⟨hheld, by rw [Event.stored_of_held cap hheld, List.take_of_length_le hle]⟩

/-- An operation that is not a put leaves the blocks as they are. -/
theorem grow (h : R.Supplied r blocks) {e : Event α} (hheld : e.held = []) (hblock : e.block = none) {ring : ρ}
    (hbal : R.Balanced (ring, r.2 ++ [e])) : R.Supplied (ring, r.2 ++ [e]) blocks where
  balanced := hbal
  held := by
    intro e' he'
    rcases List.mem_append.mp he' with he' | he'
    · exact h.held e' he'
    · rwa [List.mem_singleton.mp he']
  blocks_eq := by
    rw [List.filterMap_append, h.blocks_eq, List.filterMap_cons_none hblock, List.filterMap_nil, List.append_nil]

theorem get (h : R.Supplied r blocks) (k : Nat) : R.Supplied (R.traced.get r k).2 blocks :=
  h.grow rfl rfl (h.balanced.get k)

theorem reset (h : R.Supplied r blocks) : R.Supplied (R.traced.reset r) blocks :=
  h.grow rfl rfl h.balanced.reset

theorem put (h : R.Supplied r blocks) (hdry : R.content r.1 = []) (as : List α) :
    R.Supplied (R.traced.put r as) (blocks ++ [as]) where
  balanced := h.balanced.put as
  held := by
    intro e he
    rcases List.mem_append.mp he with he | he
    · exact h.held e he
    · rw [List.mem_singleton.mp he]
      exact hdry
  blocks_eq := by
    show (r.2 ++ [_]).filterMap Event.block = _
    rw [List.filterMap_append, h.blocks_eq]
    rfl

end Supplied

end Fifo

end SmallModbus.Lib
