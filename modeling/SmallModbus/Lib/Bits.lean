/-
# `SmallModbus.Lib.Bits` — bits and 16-bit words in byte strings.

`bitAt` and `setBit` number the bits of a byte string from the lowest bit of its first byte on; `wordAt`
and `setWord` number its 16-bit words, low byte first. Reading after writing gives what was written at the
position written and what was there before everywhere else.
-/
import Mathlib.Data.Nat.Bitwise

namespace SmallModbus.Lib

/-! ## §1 — one bit of a byte. -/

theorem toNat_one_shiftLeft {o : UInt8} (h : o.toNat < 8) : ((1 : UInt8) <<< o).toNat = 2 ^ o.toNat := by
  rw [UInt8.toNat_shiftLeft, UInt8.toNat_one, Nat.mod_eq_of_lt h, Nat.one_shiftLeft, Nat.mod_eq_of_lt]
  exact Nat.pow_lt_pow_right (by decide) h

/-- The test of a bit under a mask. -/
theorem and_bit_ne_zero {b o : UInt8} (h : o.toNat < 8) :
    b &&& (1 <<< o) ≠ 0 ↔ b.toNat.testBit o.toNat = true := by
  rw [ne_eq, ← UInt8.toNat_inj, UInt8.toNat_and, toNat_one_shiftLeft h, UInt8.toNat_zero, Nat.and_two_pow]
  cases b.toNat.testBit o.toNat <;> simp

theorem testBit_or_bit {b o : UInt8} (h : o.toNat < 8) (j : Nat) :
    (b ||| (1 <<< o)).toNat.testBit j = (decide (o.toNat = j) || b.toNat.testBit j) := by
  rw [UInt8.toNat_or, toNat_one_shiftLeft h, Nat.testBit_or, Nat.testBit_two_pow, Bool.or_comm]

theorem testBit_and_not_bit {b o : UInt8} (h : o.toNat < 8) {j : Nat} (hj : j < 8) :
    (b &&& ~~~(1 <<< o)).toNat.testBit j = (!decide (o.toNat = j) && b.toNat.testBit j) := by
  have hlt : 2 ^ o.toNat < 2 ^ 8 := Nat.pow_lt_pow_right (by decide) h
  have hsub : UInt8.size - 1 - 2 ^ o.toNat = 2 ^ 8 - (2 ^ o.toNat + 1) := by
    show 255 - 2 ^ o.toNat = 256 - (2 ^ o.toNat + 1)
    omega
  rw [UInt8.toNat_and, UInt8.toNat_not, toNat_one_shiftLeft h, Nat.testBit_and, hsub,
    Nat.testBit_two_pow_sub_succ hlt, Nat.testBit_two_pow, decide_eq_true hj, Bool.true_and, Bool.and_comm]

/-! ## §2 — bits of a byte string. -/

/-- Bit `i` of a byte string; there are zeros behind its end. -/
def bitAt (l : List UInt8) (i : Nat) : Bool := (l.getD (i / 8) 0).toNat.testBit (i % 8)

/-- The byte with bit `o` set or cleared. -/
def putBit (x o : UInt8) (b : Bool) : UInt8 := if b then x ||| (1 <<< o) else x &&& ~~~(1 <<< o)

/-- A byte string with bit `i` set or cleared. -/
def setBit (l : List UInt8) (i : Nat) (b : Bool) : List UInt8 :=
  l.set (i / 8) (putBit (l.getD (i / 8) 0) (UInt8.ofNat (i % 8)) b)

@[simp] theorem length_setBit (l : List UInt8) (i : Nat) (b : Bool) : (setBit l i b).length = l.length :=
  List.length_set

theorem testBit_putBit (x : UInt8) {o : UInt8} (ho : o.toNat < 8) (b : Bool) {j : Nat} (hj : j < 8) :
    (putBit x o b).toNat.testBit j = if o.toNat = j then b else x.toNat.testBit j := by
  unfold putBit
  cases b with
  | true =>
    rw [if_pos rfl, testBit_or_bit ho]
    by_cases h : o.toNat = j <;> simp [h]
  | false =>
    rw [if_neg (by decide), testBit_and_not_bit ho hj]
    by_cases h : o.toNat = j <;> simp [h]

/-- **Reading a bit after writing one.** -/
theorem bitAt_setBit {l : List UInt8} {i : Nat} (hi : i / 8 < l.length) (b : Bool) (j : Nat) :
    bitAt (setBit l i b) j = if i = j then b else bitAt l j := by
  have ho : (UInt8.ofNat (i % 8)).toNat = i % 8 := by
    rw [UInt8.toNat_ofNat']
    omega
  unfold bitAt setBit
  by_cases hbyte : i / 8 = j / 8
  · -- in one byte the two positions are the same when their offsets are
    rw [← hbyte, List.getD_eq_getElem?_getD, List.getElem?_set_self hi, Option.getD_some,
      testBit_putBit _ (by omega) b (by omega), ho]
    congr 1
    rw [eq_iff_iff]
    omega
  · rw [List.getD_eq_getElem?_getD, List.getElem?_set_ne hbyte, ← List.getD_eq_getElem?_getD,
      if_neg (by rintro rfl; exact hbyte rfl)]

/-- Writing a bit leaves the other bytes. -/
theorem getElem?_setBit_ne {l : List UInt8} {i k : Nat} (h : k ≠ i / 8) (b : Bool) : (setBit l i b)[k]? = l[k]? :=
  List.getElem?_set_ne (Ne.symm h)

theorem bitAt_append {x : List UInt8} {i : Nat} (h : i / 8 < x.length) (y : List UInt8) :
    bitAt (x ++ y) i = bitAt x i := by
  unfold bitAt
  rw [List.getD_eq_getElem?_getD, List.getElem?_append_left h, ← List.getD_eq_getElem?_getD]

/-- The bits in the bytes that are taken. -/
theorem bitAt_take {l : List UInt8} {k i : Nat} (h : i / 8 < k) : bitAt (l.take k) i = bitAt l i := by
  unfold bitAt
  rw [List.getD_eq_getElem?_getD, List.getElem?_take_of_lt h, ← List.getD_eq_getElem?_getD]

theorem eq_of_testBit {x y : UInt8} (h : ∀ j < 8, x.toNat.testBit j = y.toNat.testBit j) : x = y := by
  apply UInt8.toNat_inj.mp
  apply Nat.eq_of_testBit_eq
  intro j
  by_cases hj : j < 8
  · exact h j hj
  · -- no bit of a byte is set from position 8 on
    have hpow : 2 ^ 8 ≤ 2 ^ j := Nat.pow_le_pow_right (by decide) (by omega)
    have hx := x.toNat_lt
    have hy := y.toNat_lt
    rw [Nat.testBit_lt_two_pow (by omega), Nat.testBit_lt_two_pow (by omega)]

/-- **A byte string is determined by its length and its bits.** -/
theorem eq_of_bitAt {l l' : List UInt8} (hlen : l.length = l'.length)
    (h : ∀ i < 8 * l.length, bitAt l i = bitAt l' i) : l = l' := by
  apply List.ext_getElem hlen
  intro i hi hi'
  apply eq_of_testBit
  intro j hj
  have hbit := h (8 * i + j) (by omega)
  unfold bitAt at hbit
  have hdiv : (8 * i + j) / 8 = i := by omega
  have hmod : (8 * i + j) % 8 = j := by omega
  rwa [hdiv, hmod, List.getD_eq_getElem?_getD, List.getD_eq_getElem?_getD, List.getElem?_eq_getElem hi,
    List.getElem?_eq_getElem hi'] at hbit

/-- Writing the bit that is there changes nothing. -/
theorem setBit_bitAt {l : List UInt8} {i : Nat} (hi : i / 8 < l.length) : setBit l i (bitAt l i) = l := by
  apply eq_of_bitAt (length_setBit l i _)
  intro j _
  rw [bitAt_setBit hi]
  split_ifs with h
  · rw [h]
  · rfl

/-! ## §3 — words of a byte string. -/

/-- Word `i` of a byte string, low byte first. -/
def wordAt (l : List UInt8) (i : Nat) : UInt16 :=
  UInt16.ofNat ((l.getD (2 * i) 0).toNat + 256 * (l.getD (2 * i + 1) 0).toNat)

/-- A byte string with word `i` replaced. -/
def setWord (l : List UInt8) (i : Nat) (x : UInt16) : List UInt8 :=
  (l.set (2 * i) (UInt8.ofNat x.toNat)).set (2 * i + 1) (UInt8.ofNat (x.toNat / 256))

@[simp] theorem length_setWord (l : List UInt8) (i : Nat) (x : UInt16) :
    (setWord l i x).length = l.length := by simp [setWord]

/-- **Reading a word after writing one.** -/
theorem wordAt_setWord {l : List UInt8} {i : Nat} (hi : 2 * i + 1 < l.length) (x : UInt16) (j : Nat) :
    wordAt (setWord l i x) j = if i = j then x else wordAt l j := by
  unfold wordAt setWord
  by_cases hij : i = j
  · subst hij
    rw [if_pos rfl, List.getD_eq_getElem?_getD, List.getElem?_set_ne (by omega),
      List.getElem?_set_self (by omega), List.getD_eq_getElem?_getD,
      List.getElem?_set_self (by simpa using hi), Option.getD_some, Option.getD_some, ← UInt16.toNat_inj]
    have hx := x.toNat_lt
    rw [UInt8.toNat_ofNat', UInt8.toNat_ofNat', UInt16.toNat_ofNat']
    omega
  · rw [if_neg hij]
    simp only [List.getD_eq_getElem?_getD]
    rw [List.getElem?_set_ne (by omega), List.getElem?_set_ne (by omega), List.getElem?_set_ne (by omega),
      List.getElem?_set_ne (by omega)]

/-- The bytes of a word. -/
theorem getD_wordAt (l : List UInt8) (i : Nat) :
    l.getD (2 * i) 0 = UInt8.ofNat (wordAt l i).toNat ∧
      l.getD (2 * i + 1) 0 = UInt8.ofNat ((wordAt l i).toNat / 256) := by
  have hlow := (l.getD (2 * i) 0).toNat_lt
  have hhigh := (l.getD (2 * i + 1) 0).toNat_lt
  unfold wordAt
  constructor
  · rw [← UInt8.toNat_inj, UInt8.toNat_ofNat', UInt16.toNat_ofNat']
    omega
  · rw [← UInt8.toNat_inj, UInt8.toNat_ofNat', UInt16.toNat_ofNat']
    omega

/-- **A byte string of whole words is determined by its length and its words.** -/
theorem eq_of_wordAt {l l' : List UInt8} (hlen : l.length = l'.length) (num : Nat) (hnum : l.length = 2 * num)
    (h : ∀ i < num, wordAt l i = wordAt l' i) : l = l' := by
  apply List.ext_getElem hlen
  intro j hj hj'
  have hword := h (j / 2) (by omega)
  obtain ⟨hlow, hhigh⟩ := getD_wordAt l (j / 2)
  obtain ⟨hlow', hhigh'⟩ := getD_wordAt l' (j / 2)
  rw [← List.getD_eq_getElem l 0 hj, ← List.getD_eq_getElem l' 0 hj']
  -- the byte is the low or the high one of its word
  rcases Nat.mod_two_eq_zero_or_one j with hpar | hpar
  · have hj2 : 2 * (j / 2) = j := by omega
    rw [hj2] at hlow hlow'
    rw [hlow, hlow', hword]
  · have hj2 : 2 * (j / 2) + 1 = j := by omega
    rw [hj2] at hhigh hhigh'
    rw [hhigh, hhigh', hword]

theorem wordAt_append {x : List UInt8} {i : Nat} (h : 2 * i + 1 < x.length) (y : List UInt8) :
    wordAt (x ++ y) i = wordAt x i := by
  unfold wordAt
  simp only [List.getD_eq_getElem?_getD]
  rw [List.getElem?_append_left (by omega), List.getElem?_append_left (by omega)]

end SmallModbus.Lib
