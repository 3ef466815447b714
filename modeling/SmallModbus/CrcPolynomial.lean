/-
# `SmallModbus.CrcPolynomial` — `modbus_crc16` as the remainder of a division.

The CRC of the protocol is defined by the polynomial `X ^ 16 + X ^ 15 + X ^ 2 + 1` over the field with two
elements. `crc16_remainder` says that `modbus_crc16` computes it: with the bits of the message in the order of
transmission, the constant 0xA001 as the lower powers of the polynomial and 0xFFFF as what the division starts
with, the CRC is the remainder written backwards, for every message of a length that fits. So a device that
divides by the same polynomial computes the same CRC, whatever its loop looks like.
-/
import SmallModbus.Lib.LfsrPoly
import SmallModbus.ErrorDetection

namespace SmallModbus

open SmallModbus.Lib Polynomial

/-! ## §1 — the constants. -/

/-- The polynomial of the CRC. -/
noncomputable def crcGenerator : (ZMod 2)[X] := X ^ 16 + X ^ 15 + X ^ 2 + 1

/-- What the division starts with: all ones. -/
noncomputable def crcPreset : (ZMod 2)[X] := ∑ i ∈ Finset.range 16, X ^ i

/-- The polynomial of the bits of some bytes, the lowest bit of each byte first. -/
noncomputable def bytesPoly (bytes : List UInt8) : (ZMod 2)[X] := Lfsr.messagePoly (bitsOf bytes)

/-- 0xA001 is the generator without its highest power, backwards. -/
theorem modulus_crcPoly : Lfsr.modulus crcPoly = crcGenerator := by
  have hbits : ∀ i, crcPoly.getMsbD i = decide (i = 15 ∨ i = 2 ∨ i = 0) := by
    intro i
    by_cases hi : i < 16
    · have hall : ∀ j : Fin 16, crcPoly.getMsbD j = decide ((j : Nat) = 15 ∨ (j : Nat) = 2 ∨ (j : Nat) = 0) := by decide
      exact hall ⟨i, hi⟩
    · rw [BitVec.getMsbD_of_ge crcPoly i (by omega), decide_eq_false (by omega)]
  have hlow : Lfsr.regPoly crcPoly = X ^ 15 + X ^ 2 + 1 := by
    ext i
    rw [Lfsr.coeff_regPoly, hbits, coeff_add, coeff_add, coeff_X_pow, coeff_X_pow, coeff_one]
    by_cases h15 : i = 15
    · subst h15
      decide
    · by_cases h2 : i = 2
      · subst h2
        decide
      · simp [h15, h2]
  rw [Lfsr.modulus, hlow, crcGenerator, add_assoc, add_assoc, add_assoc]

/-- 0xFFFF is all ones. -/
theorem regPoly_ones : Lfsr.regPoly (0xFFFF : BitVec 16) = crcPreset := by
  have hones : (0xFFFF : BitVec 16) = BitVec.allOnes 16 := rfl
  ext i
  rw [Lfsr.coeff_regPoly, crcPreset, finsetSum_coeff, hones, BitVec.getMsbD_allOnes]
  simp [coeff_X_pow]

/-! ## §2 — the CRC. -/

/-- The bits of the CRC backwards are the remainder of the division. -/
theorem toPoly_reverse_crc16 (bytes : List UInt8) :
    Lfsr.toPoly (crc16 bytes).toBitVec.reverse =
      (bytesPoly bytes * X ^ 16 + crcPreset * X ^ (8 * bytes.length)) %ₘ crcGenerator := by
  have hrun : (crc16 bytes).toBitVec = Lfsr.run crcPoly 0xFFFF (bitsOf bytes) := toBitVec_foldl_crcByte bytes 0xFFFF
  rw [hrun, ← modulus_crcPoly, ← regPoly_ones, ← length_bitsOf]
  exact Lfsr.regPoly_run (by decide) crcPoly 0xFFFF (bitsOf bytes)

/-- Sent low byte first behind its message, the CRC leaves nothing. -/
theorem crc16_append_self (bytes : List UInt8) :
    crc16 (bytes ++ [lowByte (crc16 bytes).toNat, highByte (crc16 bytes).toNat]) = 0 := by
  have hword : crc16 bytes = toU16 (word (highByte (crc16 bytes).toNat) (lowByte (crc16 bytes).toNat)) := by
    have hlt := (crc16 bytes).toNat_lt
    rw [word_highByte_lowByte (by omega) (by omega), toU16_toNat]
  have hzero := (residue_eq_zero_iff bytes _ _).mpr hword
  rw [← UInt16.toBitVec_inj]
  exact (toBitVec_foldl_crcByte _ 0xFFFF).trans hzero

/-- `modbus_crc16` of a whole message in a buffer. -/
theorem modbusCrc16_whole {m : Nat} (old : Buffer UInt8 m) {bytes : List UInt8} (hm : bytes.length ≤ m)
    (hlen : bytes.length < 65536) : modbusCrc16 (old.fill bytes) (toU16 bytes.length) = .ok (crc16 bytes) := by
  have hto : (toU16 (bytes.length : Int)).toNat = bytes.length := toNat_toU16_natCast (by omega)
  rw [modbusCrc16_fill old hm hto.le, hto, List.take_length]

/-- **`modbus_crc16` is the remainder backwards**: for a message `M` of `n` bytes, the 16 bits of the remainder of
`M * X ^ 16 + (X ^ 15 + … + 1) * X ^ (8 * n)` in reverse order. With its low byte and then its high byte
behind the message the CRC is 0. -/
theorem crc16_remainder (bytes : List UInt8) (hlen : bytes.length ≤ 65533) :
    ∃ crc, (∀ {m : Nat} (old : Buffer UInt8 m), bytes.length ≤ m →
        modbusCrc16 (old.fill bytes) (toU16 bytes.length) = .ok crc) ∧
      (∃ r : BitVec 16, Lfsr.toPoly r =
          (bytesPoly bytes * X ^ 16 + crcPreset * X ^ (8 * bytes.length)) %ₘ crcGenerator ∧
        crc.toBitVec = r.reverse) ∧
      ∀ {m : Nat} (old : Buffer UInt8 m), bytes.length + 2 ≤ m →
        modbusCrc16 (old.fill (bytes ++ [lowByte crc.toNat, highByte crc.toNat]))
          (toU16 (bytes.length + 2 : Nat)) = .ok 0 := by
  refine ⟨crc16 bytes, ?_, ⟨_, toPoly_reverse_crc16 bytes, BitVec.reverse_reverse_eq.symm⟩, ?_⟩
  · intro m old hm
    exact modbusCrc16_whole old hm (by omega)
  · intro m old hm
    have hframe : (bytes ++ [lowByte (crc16 bytes).toNat, highByte (crc16 bytes).toNat]).length = bytes.length + 2 := by
      simp
    rw [← hframe, modbusCrc16_whole old (by omega) (by omega), crc16_append_self]

/-- The third sample of the documentation: 01 03 00 00 00 01, sent with 84 0A. -/
theorem crc16_remainder_sample :
    modbusCrc16 ((Buffer.replicate 8 0).fill [1, 3, 0, 0, 0, 1]) 6 = .ok 0x0A84 ∧
      (∃ r : BitVec 16, Lfsr.toPoly r =
          (bytesPoly [1, 3, 0, 0, 0, 1] * X ^ 16 + crcPreset * X ^ 48) %ₘ crcGenerator ∧ (0x0A84 : BitVec 16) = r.reverse) ∧
      modbusCrc16 ((Buffer.replicate 8 0).fill [1, 3, 0, 0, 0, 1, 0x84, 0x0A]) 8 = .ok 0 := by
  obtain ⟨crc, hcrc, hr, hzero⟩ := crc16_remainder [1, 3, 0, 0, 0, 1] (by decide)
  have hsample : modbusCrc16 ((Buffer.replicate 8 0).fill [1, 3, 0, 0, 0, 1]) 6 = .ok 0x0A84 := by decide +kernel
  obtain rfl : crc = 0x0A84 := Except.ok.inj ((hcrc (Buffer.replicate 8 0) (by decide)).symm.trans hsample)
  exact ⟨hsample, hr, hzero (Buffer.replicate 8 0) (by decide)⟩

end SmallModbus
