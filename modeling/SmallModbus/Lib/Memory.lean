/-
# `SmallModbus.Lib.Memory` — objects of fixed size with checked access, and executions that may stop.

A C object is a `Buffer α n`: exactly `n` cells, the size carried as a field, so that no operation can
return an object of another size. Every access goes through a bounds check and an access outside the
object stops the execution with `Halt.fault`. Loops take a step budget; a spent budget is `Halt.fuel`,
which is kept apart from a fault and from every returned value.

The working form is `Buffer.fill b pre`: the object `b` whose first `pre.length` cells have been
overwritten by `pre`. Writing at the cursor extends `pre`, writing below it updates `pre`, and reading
below it reads `pre`, so a run of stores is a list computation and never an index computation.
-/
import Mathlib.Data.List.Basic
import Mathlib.Tactic.Ring

namespace SmallModbus.Lib

/-! ## §1 — executions that may stop before they return. -/

/-- Why an execution stops without returning. -/
inductive Halt
  /-- an access outside the object it was made on -/
  | fault
  /-- the step budget is spent -/
  | fuel
  deriving DecidableEq, Repr

/-- An execution: a result, or the reason there is none. -/
abbrev Exec (α : Type) := Except Halt α

@[simp] theorem exec_pure {α : Type} (a : α) : (pure a : Exec α) = .ok a := rfl

@[simp] theorem exec_ok_bind {α β : Type} (a : α) (f : α → Exec β) :
    ((.ok a : Exec α) >>= f) = f a := rfl

@[simp] theorem exec_error_bind {α β : Type} (e : Halt) (f : α → Exec β) :
    ((.error e : Exec α) >>= f) = .error e := rfl

/-- A sequence returns exactly when both of its parts do. -/
theorem bind_eq_ok {α β : Type} {x : Exec α} {f : α → Exec β} {b : β} :
    (x >>= f) = .ok b ↔ ∃ a, x = .ok a ∧ f a = .ok b := by
  cases x with
  | error e => simp
  | ok a => simp

/-- A result that is read off a run comes from a run that returns. -/
theorem map_eq_ok {α β : Type} {x : Exec α} {f : α → β} {b : β} :
    x.map f = .ok b ↔ ∃ a, x = .ok a ∧ f a = b := by
  cases x with
  | error e => simp [Except.map]
  | ok a => simp [Except.map]

/-! ## §2 — objects. -/

/-- An object of exactly `n` cells. -/
structure Buffer (α : Type) (n : Nat) where
  toList : List α
  size_eq : toList.length = n

namespace Buffer

variable {α : Type} {n : Nat}

@[ext]
theorem ext {b c : Buffer α n} (h : b.toList = c.toList) : b = c := by
  cases b with
  | mk l hl =>
    cases c with
    | mk l' hl' =>
      cases h
      rfl

instance [DecidableEq α] : DecidableEq (Buffer α n) := fun b c =>
  decidable_of_iff (b.toList = c.toList) ⟨ext, congrArg Buffer.toList⟩

@[simp] theorem length_toList (b : Buffer α n) : b.toList.length = n := b.size_eq

/-- The object with the same value in every cell. -/
def replicate (n : Nat) (a : α) : Buffer α n := ⟨List.replicate n a, by simp⟩

/-- Read one cell. -/
def load (b : Buffer α n) (i : Nat) : Exec α :=
  match b.toList[i]? with
  | some a => .ok a
  | none => .error .fault

/-- Write one cell. -/
def store (b : Buffer α n) (i : Nat) (a : α) : Exec (Buffer α n) :=
  if i < n then .ok ⟨b.toList.set i a, by simp⟩ else .error .fault

/-- Read a cell through a signed index. -/
def loadAt (b : Buffer α n) (i : Int) : Exec α :=
  if 0 ≤ i then b.load i.toNat else .error .fault

/-- Write a cell through a signed index. -/
def storeAt (b : Buffer α n) (i : Int) (a : α) : Exec (Buffer α n) :=
  if 0 ≤ i then b.store i.toNat a else .error .fault

/-- Read the first `len` cells. -/
def slice (b : Buffer α n) (len : Nat) : Exec (List α) :=
  if len ≤ n then .ok (b.toList.take len) else .error .fault

/-- Write a block of cells. -/
def storeBlock (b : Buffer α n) (off : Nat) (as : List α) : Exec (Buffer α n) :=
  if h : off + as.length ≤ n then
    .ok ⟨b.toList.take off ++ as ++ b.toList.drop (off + as.length), by simp; omega⟩
  else .error .fault

/-! ### Source pointers. -/

/-- Where a copy reads from: the object it writes to, from an offset on, or another object, given by its
cells from the pointer on. -/
inductive Source (α : Type)
  | self (off : Nat)
  | other (cells : List α)

/-- Read the `i`-th cell behind a source pointer while `des` is being written. -/
def Source.load (des : Buffer α n) : Source α → Nat → Exec α
  | .self off, i => des.load (off + i)
  | .other cells, i =>
      match cells[i]? with
      | some a => .ok a
      | none => .error .fault

theorem Source.load_other (des : Buffer α n) {cells : List α} {i : Nat} (h : i < cells.length) :
    Source.load des (.other cells) i = .ok cells[i] := by
  simp only [Source.load, List.getElem?_eq_getElem h]

/-- The cells of `b` from `off` on. -/
def tailFrom (b : Buffer α n) (off : Nat) : List α := b.toList.drop off

/-- Replace the cells of `b` from `off` on. -/
def replaceFrom (b : Buffer α n) (off : Nat) (tail : List α) : Exec (Buffer α n) :=
  if h : off + tail.length = n then .ok ⟨b.toList.take off ++ tail, by simp; omega⟩
  else .error .fault

/-- The first `k` cells, as an object of their own. -/
def cut (b : Buffer α n) (k : Nat) : Buffer α (min k n) := ⟨b.toList.take k, by simp⟩

/-! ## §3 — objects whose first cells are known. -/

/-- `b` with its first `pre.length` cells overwritten by `pre`. -/
def fill (b : Buffer α n) (pre : List α) : Buffer α n :=
  ⟨pre.take n ++ b.toList.drop pre.length, by simp; omega⟩

theorem toList_fill (b : Buffer α n) {pre : List α} (h : pre.length ≤ n) :
    (b.fill pre).toList = pre ++ b.toList.drop pre.length := by
  simp [fill, List.take_of_length_le h]

@[simp] theorem fill_nil (b : Buffer α n) : b.fill [] = b := by
  ext1
  simp [fill]

/-- A longer overwrite hides a shorter one. -/
theorem fill_fill (b : Buffer α n) {pre more : List α} (h : pre.length ≤ more.length)
    (hn : more.length ≤ n) : (b.fill pre).fill more = b.fill more := by
  ext1
  rw [toList_fill _ hn, toList_fill _ hn, toList_fill _ (h.trans hn), List.drop_append,
    List.drop_eq_nil_of_le h, List.nil_append, List.drop_drop]
  congr 2
  omega

/-- Overwriting the first cells with what they are changes nothing. -/
theorem fill_append_fill (b : Buffer α n) {pre more : List α} (hn : (pre ++ more).length ≤ n) :
    (b.fill (pre ++ more)).fill pre = b.fill (pre ++ more) := by
  have hpre : pre.length ≤ n := by
    rw [List.length_append] at hn
    omega
  ext1
  rw [toList_fill _ hpre, toList_fill _ hn, List.append_assoc, List.drop_left]

theorem take_fill (b : Buffer α n) {pre : List α} (h : pre.length ≤ n) :
    (b.fill pre).toList.take pre.length = pre := by
  rw [toList_fill b h, List.take_left]

/-- What lies behind the cells that are overwritten. -/
theorem getElem?_fill_behind (b : Buffer α n) {pre : List α} (h : pre.length ≤ n) {i : Nat} (hi : pre.length ≤ i) :
    (b.fill pre).toList[i]? = b.toList[i]? := by
  rw [toList_fill b h, List.getElem?_append_right hi, List.getElem?_drop, Nat.add_sub_cancel' hi]

/-- The cell under the cursor may be counted in with the value it already has. -/
theorem fill_extend (b : Buffer α n) {i : Nat} {a : α} (ha : b.toList[i]? = some a) {pre : List α}
    (hi : i = pre.length) : b.fill pre = b.fill (pre ++ [a]) := by
  subst hi
  obtain ⟨hlt, ha⟩ := List.getElem?_eq_some_iff.mp ha
  have h : pre.length < n := by simpa using hlt
  ext1
  rw [toList_fill _ h.le, toList_fill _ (by simp; omega), List.append_assoc]
  congr 1
  rw [List.length_append, List.length_singleton, List.singleton_append, ← ha]
  exact List.drop_eq_getElem_cons hlt

/-! ### Reading. -/

theorem load_eq_ok_iff {b : Buffer α n} {i : Nat} {a : α} :
    b.load i = .ok a ↔ b.toList[i]? = some a := by
  unfold load
  split <;> simp_all

theorem load_of_lt (b : Buffer α n) {i : Nat} (h : i < n) :
    ∃ a, b.toList[i]? = some a ∧ b.load i = .ok a := by
  have hi : i < b.toList.length := by simpa using h
  exact ⟨_, List.getElem?_eq_getElem hi, load_eq_ok_iff.mpr (List.getElem?_eq_getElem hi)⟩

theorem load_fill (b : Buffer α n) {pre : List α} {i : Nat} (hi : i < pre.length)
    (h : pre.length ≤ n) : (b.fill pre).load i = .ok pre[i] := by
  rw [load_eq_ok_iff, toList_fill b h, List.getElem?_append_left hi, List.getElem?_eq_getElem hi]

theorem load_fill_of_getElem? (b : Buffer α n) {pre : List α} {i : Nat} {a : α}
    (hi : pre[i]? = some a) (h : pre.length ≤ n) : (b.fill pre).load i = .ok a := by
  obtain ⟨hlt, rfl⟩ := List.getElem?_eq_some_iff.mp hi
  exact load_fill b hlt h

theorem loadAt_natCast (b : Buffer α n) (i : Nat) : b.loadAt (i : Int) = b.load i := by
  simp [loadAt]

theorem slice_fill (b : Buffer α n) {pre : List α} (h : pre.length ≤ n) :
    (b.fill pre).slice pre.length = .ok pre := by
  rw [slice, if_pos h, take_fill b h]

/-! ### Writing. -/

/-- Storing the value a cell has changes nothing. -/
theorem store_load_self {b : Buffer α n} {i : Nat} {a : α} (h : b.load i = .ok a) :
    b.store i a = .ok b := by
  rw [load_eq_ok_iff] at h
  obtain ⟨hi, ha⟩ := List.getElem?_eq_some_iff.mp h
  rw [store, if_pos (by simpa using hi)]
  congr 1
  ext1
  show b.toList.set i a = b.toList
  rw [← ha, List.set_getElem_self]

theorem store_of_lt (b : Buffer α n) {i : Nat} (h : i < n) (a : α) :
    b.store i a = .ok ⟨b.toList.set i a, by simp⟩ := if_pos h

/-- A store that returns changes one cell. -/
theorem toList_of_store {b c : Buffer α n} {i : Nat} {a : α} (h : b.store i a = .ok c) :
    i < n ∧ c.toList = b.toList.set i a := by
  unfold store at h
  split at h
  · rename_i hi
    cases h
    exact ⟨hi, rfl⟩
  · cases h

/-- A store at the cursor extends the known prefix. -/
theorem store_fill_end (b : Buffer α n) {pre : List α} {i : Nat} (hi : i = pre.length)
    (h : i < n) (a : α) : (b.fill pre).store i a = .ok (b.fill (pre ++ [a])) := by
  subst hi
  rw [store_of_lt _ h]
  congr 1
  ext1
  show (b.fill pre).toList.set pre.length a = _
  rw [toList_fill _ h.le, toList_fill _ (by simp; omega), List.set_append_right _ _ le_rfl, Nat.sub_self,
    List.append_assoc]
  congr 1
  rw [List.drop_eq_getElem_cons (by simpa using h), List.set_cons_zero, List.length_append]
  rfl

/-- A store below the cursor updates the known prefix. -/
theorem store_fill_lt (b : Buffer α n) {pre : List α} {i : Nat} (hi : i < pre.length)
    (h : pre.length ≤ n) (a : α) : (b.fill pre).store i a = .ok (b.fill (pre.set i a)) := by
  rw [store_of_lt _ (hi.trans_le h)]
  congr 1
  ext1
  show (b.fill pre).toList.set i a = _
  rw [toList_fill _ h, toList_fill _ (by simpa using h), List.set_append_left _ _ hi, List.length_set]

/-- A block stored at the cursor extends the known prefix. -/
theorem storeBlock_fill_end (b : Buffer α n) {pre : List α} {i : Nat} (hi : i = pre.length)
    {as : List α} (h : pre.length + as.length ≤ n) :
    (b.fill pre).storeBlock i as = .ok (b.fill (pre ++ as)) := by
  subst hi
  rw [storeBlock, dif_pos h]
  congr 1
  ext1
  show (b.fill pre).toList.take pre.length ++ as ++ (b.fill pre).toList.drop _ = _
  rw [take_fill _ (by omega), toList_fill _ (by omega), toList_fill _ (by simpa using h),
    List.drop_append, List.drop_eq_nil_of_le (by omega), List.nil_append, List.drop_drop, List.length_append]
  congr 2
  omega

theorem storeBlock_nil (b : Buffer α n) {off : Nat} (h : off ≤ n) : b.storeBlock off [] = .ok b := by
  have hoff : off + ([] : List α).length ≤ n := h
  rw [storeBlock, dif_pos hoff]
  congr 1
  ext1
  show b.toList.take off ++ [] ++ b.toList.drop (off + 0) = b.toList
  rw [List.append_nil, Nat.add_zero, List.take_append_drop]

/-- The cells behind the cursor replaced are cells counted in. -/
theorem replaceFrom_fill (b : Buffer α n) {pre tail : List α} {i : Nat} (hi : i = pre.length)
    (h : pre.length + tail.length = n) :
    (b.fill pre).replaceFrom i tail = .ok (b.fill (pre ++ tail)) := by
  subst hi
  rw [replaceFrom, dif_pos h]
  congr 1
  ext1
  show (b.fill pre).toList.take pre.length ++ tail = _
  rw [take_fill _ (by omega), toList_fill _ (by rw [List.length_append]; omega),
    List.drop_eq_nil_of_le (by rw [length_toList, List.length_append]; omega), List.append_nil]

/-- All cells replaced. -/
theorem replaceFrom_zero (b : Buffer α n) {l : List α} (h : l.length = n) : b.replaceFrom 0 l = .ok ⟨l, h⟩ := by
  have hsum : 0 + l.length = n := by omega
  rw [replaceFrom, dif_pos hsum]
  congr 1

theorem tailFrom_fill (b : Buffer α n) {pre : List α} (h : pre.length ≤ n) :
    (b.fill pre).tailFrom pre.length = b.toList.drop pre.length := by
  rw [tailFrom, toList_fill _ h, List.drop_left]

/-- An object is itself overwritten with all its cells. -/
theorem fill_toList (b : Buffer α n) (c : Buffer α n) : b.fill c.toList = c := by
  ext1
  rw [toList_fill _ (by simp), List.drop_eq_nil_of_le (by simp), List.append_nil]

/-- An object overwritten with some of its first cells is itself. -/
theorem fill_take_self (b : Buffer α n) {pre more : List α} (h : b.toList = pre ++ more) :
    b.fill pre = b := by
  have hlen := congrArg List.length h
  rw [length_toList, List.length_append] at hlen
  ext1
  rw [toList_fill _ (by omega), h, List.drop_left]

/-! ### Known cells in the middle. -/

/-- `b` with the cells from `off` on overwritten by `mid`. -/
def overlay (b : Buffer α n) (off : Nat) (mid : List α) : Buffer α n := b.fill (b.toList.take off ++ mid)

/-- The cells of an object before, in and behind a part of it. -/
theorem toList_split (b : Buffer α n) (off k : Nat) :
    b.toList = b.toList.take off ++ (b.tailFrom off).take k ++ b.toList.drop (off + k) := by
  rw [List.append_assoc, tailFrom, ← List.drop_drop, List.take_append_drop, List.take_append_drop]

theorem length_take_tailFrom (b : Buffer α n) {off k : Nat} (h : off + k ≤ n) :
    ((b.tailFrom off).take k).length = k := List.length_take_of_le (by simp [tailFrom]; omega)

/-- Overwriting a part with what it is changes nothing. -/
theorem overlay_self (b : Buffer α n) (off k : Nat) : b.overlay off ((b.tailFrom off).take k) = b :=
  fill_take_self b (toList_split b off k)

section Overlay

variable (b : Buffer α n) {off : Nat} {mid : List α} (h : off + mid.length ≤ n)

include h

theorem length_take_overlay : (b.toList.take off).length = off := List.length_take_of_le (by simp; omega)

theorem toList_overlay : (b.overlay off mid).toList = b.toList.take off ++ mid ++ b.toList.drop (off + mid.length) := by
  have hlen : (b.toList.take off ++ mid).length = off + mid.length := by
    rw [List.length_append, b.length_take_overlay h]
  rw [overlay, toList_fill b (by omega), hlen]

/-- The part that is overwritten. -/
theorem take_tailFrom_overlay : ((b.overlay off mid).tailFrom off).take mid.length = mid := by
  rw [tailFrom, b.toList_overlay h, List.append_assoc, List.drop_left' (b.length_take_overlay h), List.take_left]

/-- The rest of the object. -/
theorem getElem?_overlay {j : Nat} (hj : j < off ∨ off + mid.length ≤ j) :
    (b.overlay off mid).toList[j]? = b.toList[j]? := by
  have hlen : (b.toList.take off ++ mid).length = off + mid.length := by
    rw [List.length_append, b.length_take_overlay h]
  rcases hj with hj | hj
  · rw [b.toList_overlay h, List.append_assoc, List.getElem?_append_left (by rw [b.length_take_overlay h]; omega),
      List.getElem?_take, if_pos hj]
  · exact b.getElem?_fill_behind (hlen.trans_le h) (hlen.trans_le hj)

/-- The later of two overwrites of a part is what remains. -/
theorem overlay_overlay {mid' : List α} (hlen : mid'.length = mid.length) :
    (b.overlay off mid).overlay off mid' = b.overlay off mid' := by
  have htake : (b.overlay off mid).toList.take off = b.toList.take off := by
    rw [b.toList_overlay h, List.append_assoc, List.take_left' (b.length_take_overlay h)]
  have hdrop : (b.overlay off mid).toList.drop (off + mid.length) = b.toList.drop (off + mid.length) := by
    rw [b.toList_overlay h]
    exact List.drop_left' (by rw [List.length_append, b.length_take_overlay h])
  ext1
  rw [toList_overlay (b.overlay off mid) (by omega), htake, hlen, hdrop, toList_overlay b (by omega), hlen]

end Overlay

/-- The known first cells, cut off, are an object all of whose cells are known. -/
theorem cut_fill (b : Buffer α n) {pre : List α} (h : pre.length ≤ n) :
    ∃ c : Buffer α (min pre.length n), (b.fill pre).cut pre.length = c.fill pre := by
  have hall : ((b.fill pre).cut pre.length).toList = pre ++ [] := by
    rw [List.append_nil]
    exact take_fill b h
  exact ⟨_, (fill_take_self _ hall).symm⟩

end Buffer

/-! ## §4 — lists with their neighbours exchanged. -/

/-- Exchange the two items of each consecutive pair. -/
def swapPairs {α : Type} : List α → List α
  | a :: b :: l => b :: a :: swapPairs l
  | l => l

@[simp] theorem length_swapPairs {α : Type} (l : List α) : (swapPairs l).length = l.length := by
  induction l using swapPairs.induct with
  | case1 a b l ih => simp [swapPairs, ih]
  | case2 l h => rw [swapPairs]; exact h

@[simp] theorem swapPairs_swapPairs {α : Type} (l : List α) : swapPairs (swapPairs l) = l := by
  induction l using swapPairs.induct with
  | case1 a b l ih => simp [swapPairs, ih]
  | case2 l h =>
    have hl : swapPairs l = l := by rw [swapPairs]; exact h
    rw [hl, hl]

/-- Where an even number of items is taken, exchanging first or last is the same. -/
theorem take_swapPairs {α : Type} (k : Nat) (l : List α) :
    (swapPairs l).take (2 * k) = swapPairs (l.take (2 * k)) := by
  induction k generalizing l with
  | zero => simp [swapPairs]
  | succ k ih =>
    match l with
    | [] => simp [swapPairs]
    | [a] => simp [swapPairs, Nat.mul_succ]
    | a :: b :: l => simp [swapPairs, Nat.mul_succ, ih]

end SmallModbus.Lib
