/-
# `SmallModbus.ByteOrder` — the register copies change the byte order, in place as well.

`modbus_reg_h2m` and `modbus_reg_m2h` run over two pointers. The master gives them two objects; the slave gives
them one object twice, to convert a bank where it lies. `reg_conversion` says that this makes no difference:
each pair is read whole before it is written, so what is behind the pointer is not converted yet and what is
before it is. Both exchange the bytes of each pair (`swapPairs`), which is what it takes to go from 16-bit values
with the low byte first, as the host has them, to values with the high byte first, as they are sent, and back.
-/
import SmallModbus.Lib.Bits
import SmallModbus.Utils

namespace SmallModbus

open SmallModbus.Lib

variable {size : Nat}

/-! ## §1 — the two byte orders. -/

/-- A 16-bit value as it is sent: high byte first. -/
def bigEndian (v : UInt16) : List UInt8 := [highByte v.toNat, lowByte v.toNat]

/-- A 16-bit value in the memory of the host: low byte first. -/
def littleEndian (v : UInt16) : List UInt8 := [lowByte v.toNat, highByte v.toNat]

/-- Word `i` of a byte string, high byte first. -/
def wireWordAt (l : List UInt8) (i : Nat) : UInt16 := toU16 (word (l.getD (2 * i) 0) (l.getD (2 * i + 1) 0))

theorem bigEndian_toU16_word (hi lo : UInt8) : bigEndian (toU16 (word hi lo)) = [hi, lo] := by
  simp [bigEndian, highByte_word, lowByte_word]

theorem littleEndian_toU16_word (hi lo : UInt8) : littleEndian (toU16 (word hi lo)) = [lo, hi] := by
  simp [littleEndian, highByte_word, lowByte_word]

theorem wordAt_eq_word (l : List UInt8) (i : Nat) :
    wordAt l i = toU16 (word (l.getD (2 * i + 1) 0) (l.getD (2 * i) 0)) := by
  rw [toU16_natCast, wordAt, word, Nat.add_comm, Nat.mul_comm 256]

/-- Exchanging the pairs exchanges the bytes of word `i`. -/
theorem pair_swapPairs {l : List UInt8} {i : Nat} (h : 2 * i + 1 < l.length) :
    ((swapPairs l).drop (2 * i)).take 2 = [l.getD (2 * i + 1) 0, l.getD (2 * i) 0] := by
  induction i generalizing l with
  | zero =>
    match l, h with
    | a :: b :: l, _ => rfl
  | succ i ih =>
    match l, h with
    | a :: b :: l, h =>
      have hrest := ih (l := l) (by simp at h; omega)
      rw [swapPairs]
      exact hrest

theorem pair_swapPairs_wordAt {l : List UInt8} {i : Nat} (h : 2 * i + 1 < l.length) :
    ((swapPairs l).drop (2 * i)).take 2 = bigEndian (wordAt l i) := by
  rw [pair_swapPairs h, wordAt_eq_word, bigEndian_toU16_word]

theorem pair_swapPairs_wireWordAt {l : List UInt8} {i : Nat} (h : 2 * i + 1 < l.length) :
    ((swapPairs l).drop (2 * i)).take 2 = littleEndian (wireWordAt l i) := by
  rw [pair_swapPairs h, wireWordAt, littleEndian_toU16_word]

/-! ## §2 — the copies. -/

/-- A register copy of an object onto itself. -/
theorem modbusRegH2m_inPlace (b : Buffer UInt8 size) {d num : Nat} (hnum : 0 < num) (h : d + 2 * num ≤ size) :
    modbusRegH2m b d (.self d) num = .ok (b.overlay d (swapPairs ((b.tailFrom d).take (2 * num)))) := by
  have hmid := b.length_take_tailFrom h
  have hpre : (b.toList.take d).length = d := List.length_take_of_le (by simp; omega)
  have hcopy := modbusRegH2m_self b hpre.symm hnum hmid (by omega)
  rwa [← Buffer.overlay, b.overlay_self, ← Buffer.overlay] at hcopy

/-- A register copy from another object. -/
theorem modbusRegH2m_apart (dest : Buffer UInt8 size) {e num : Nat} (hnum : 0 < num) (h : e + 2 * num ≤ size)
    {cells : List UInt8} (hc : 2 * num ≤ cells.length) :
    modbusRegH2m dest e (.other cells) num = .ok (dest.overlay e (swapPairs (cells.take (2 * num)))) := by
  have hpre : (dest.toList.take e).length = e := List.length_take_of_le (by simp; omega)
  have hcopy := modbusRegH2m_other dest cells hpre.symm hnum hc (by omega)
  rwa [dest.fill_take_self (List.take_append_drop e dest.toList).symm] at hcopy

/-- The part that is exchanged, of the object itself or of another. -/
theorem take_tailFrom_exchange (dest : Buffer UInt8 size) {e num : Nat} (h : e + 2 * num ≤ size) {mid : List UInt8}
    (hmid : mid.length = 2 * num) : ((dest.overlay e (swapPairs mid)).tailFrom e).take (2 * num) = swapPairs mid := by
  have hpart := dest.take_tailFrom_overlay (show e + (swapPairs mid).length ≤ size by rw [length_swapPairs]; omega)
  rwa [length_swapPairs, hmid] at hpart

/-- A second copy of an object onto itself undoes the first. -/
theorem modbusRegH2m_undo (b : Buffer UInt8 size) {d num : Nat} (hnum : 0 < num) (h : d + 2 * num ≤ size) :
    modbusRegH2m (b.overlay d (swapPairs ((b.tailFrom d).take (2 * num)))) d (.self d) num = .ok b := by
  have hmid := b.length_take_tailFrom h
  rw [modbusRegH2m_inPlace _ hnum h, take_tailFrom_exchange b h hmid, swapPairs_swapPairs,
    b.overlay_overlay (by rw [length_swapPairs]; omega) (length_swapPairs _).symm, b.overlay_self]

/-- What `convert` makes of the `num` 16-bit values of `b` from `d` on: `value` reads them before, `encode` says
how they are written after. -/
structure Converts (convert : {m : Nat} → Buffer UInt8 m → Nat → Buffer.Source UInt8 → Int → Exec (Buffer UInt8 m))
    (value : List UInt8 → Nat → UInt16) (encode : UInt16 → List UInt8) (b : Buffer UInt8 size) (d num : Nat)
    (b' : Buffer UInt8 size) : Prop where
  /-- with one object given twice -/
  inPlace : convert b d (.self d) num = .ok b'
  /-- another object gets the same bytes, and nothing else changes in it -/
  apart : ∀ {m : Nat} (dest : Buffer UInt8 m) (e : Nat), e + 2 * num ≤ m →
    ∃ dest', convert dest e (.other (b.tailFrom d)) num = .ok dest' ∧
      (dest'.tailFrom e).take (2 * num) = (b'.tailFrom d).take (2 * num) ∧
      ∀ j, j < e ∨ e + 2 * num ≤ j → dest'.toList[j]? = dest.toList[j]?
  frame : ∀ j, j < d ∨ d + 2 * num ≤ j → b'.toList[j]? = b.toList[j]?
  encoded : ∀ i < num, ((b'.tailFrom d).drop (2 * i)).take 2 = encode (value (b.tailFrom d) i)

/-- The bytes of a pair inside the first `num` pairs. -/
theorem pair_take {l : List UInt8} {i num : Nat} (hi : i < num) :
    ((l.take (2 * num)).drop (2 * i)).take 2 = (l.drop (2 * i)).take 2 := by
  rw [List.drop_take, List.take_take, Nat.min_eq_left (by omega)]

/-- **The exchange of the pairs converts**, whatever the values are called. -/
theorem converts_exchange {value : List UInt8 → Nat → UInt16} {encode : UInt16 → List UInt8}
    (hvalue : ∀ {l : List UInt8} {i : Nat}, 2 * i + 1 < l.length →
      ((swapPairs l).drop (2 * i)).take 2 = encode (value l i))
    (b : Buffer UInt8 size) {d num : Nat} (hnum : 0 < num) (h : d + 2 * num ≤ size) :
    Converts modbusRegH2m value encode b d num (b.overlay d (swapPairs ((b.tailFrom d).take (2 * num)))) := by
  have hmid := b.length_take_tailFrom h
  have hlen : (swapPairs ((b.tailFrom d).take (2 * num))).length = 2 * num := (length_swapPairs _).trans hmid
  have htail : 2 * num ≤ (b.tailFrom d).length := by
    simp [Buffer.tailFrom]
    omega
  have hpart := take_tailFrom_exchange b h hmid
  refine ⟨modbusRegH2m_inPlace b hnum h, ?_, ?_, ?_⟩
  · intro m dest e he
    refine ⟨_, modbusRegH2m_apart dest hnum he htail, ?_, ?_⟩
    · rw [take_tailFrom_exchange dest he hmid, hpart]
    · intro j hj
      exact dest.getElem?_overlay (by omega) (by omega)
  · intro j hj
    exact b.getElem?_overlay (by omega) (by omega)
  · intro i hi
    rw [← pair_take hi, hpart, ← take_swapPairs, pair_take hi]
    exact hvalue (by omega)

/-- **The register copies**, on any object with room for `num` registers at `d`: each of them gives the same bytes
in place as from another object and leaves the rest alone; `modbus_reg_h2m` writes the values of the host high
byte first, `modbus_reg_m2h` the values that were sent low byte first, and each undoes the other. -/
theorem reg_conversion (b : Buffer UInt8 size) {d num : Nat} (hnum : 1 ≤ num) (h : d + 2 * num ≤ size) :
    ∃ wire host, Converts modbusRegH2m wordAt bigEndian b d num wire ∧
      Converts modbusRegM2h wireWordAt littleEndian b d num host ∧
      modbusRegM2h wire d (.self d) num = .ok b ∧ modbusRegH2m host d (.self d) num = .ok b := by
  have hback := modbusRegH2m_undo b hnum h
  exact ⟨_, _, converts_exchange pair_swapPairs_wordAt b hnum h, converts_exchange pair_swapPairs_wireWordAt b hnum h,
    hback, hback⟩

/-- The registers 0x0102 and 0x0304 of the host, in the first four of five bytes. -/
theorem reg_conversion_two :
    Converts modbusRegH2m wordAt bigEndian (⟨[2, 1, 4, 3, 9], rfl⟩ : Buffer UInt8 5) 0 2 ⟨[1, 2, 3, 4, 9], rfl⟩ ∧
      modbusRegM2h (⟨[1, 2, 3, 4, 9], rfl⟩ : Buffer UInt8 5) 0 (.self 0) 2 = .ok ⟨[2, 1, 4, 3, 9], rfl⟩ := by
  obtain ⟨wire, -, hwire, -, hback, -⟩ :=
    reg_conversion (⟨[2, 1, 4, 3, 9], rfl⟩ : Buffer UInt8 5) (d := 0) (show 1 ≤ 2 by decide) (by decide)
  obtain rfl : wire = ⟨[1, 2, 3, 4, 9], rfl⟩ :=
    Except.ok.inj (hwire.inPlace.symm.trans (by decide))
  exact ⟨hwire, hback⟩

end SmallModbus
