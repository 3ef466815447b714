/-
# `SmallModbus.Coils` — the coil accessors as a bit array.

`dio_get_val` and `dio_set_val` take an index of 16 bits and hold the byte offset in 8 bits, so an index
denotes the coil `index % 2048` of the array. Writing coil `i` and reading coil `j` is what a bit array
promises when `i` is below 2048 and `j` denotes another coil, or when the write changes nothing. A bank
is a lawful bit array exactly when it has at most 256 bytes.
-/
import SmallModbus.Bank

namespace SmallModbus

open SmallModbus.Lib

/-- What a bit array promises of a write at `i`: the status is read at `i`, what was there before at `j`,
and no byte but that of `i` is touched. -/
def CoilLaw (array : List UInt8) (i j : UInt16) (status : Int) : Prop :=
  ∃ after, dioSetVal array i status = .ok after ∧ after.length = array.length ∧
    dioGetVal after i = .ok (if status ≠ 0 then 1 else 0) ∧ dioGetVal after j = dioGetVal array j ∧
      ∀ k, k ≠ i.toNat / 8 → after[k]? = array[k]?

section Law

variable {array : List UInt8} {i j : UInt16} {status : Int} (hi : i.toNat < 8 * array.length)

include hi

theorem CoilLaw.of_unchanged (h : bitAt array (i.toNat % 2048) = decide (status ≠ 0)) : CoilLaw array i j status := by
  have hbyte : i.toNat % 2048 / 8 < array.length := by omega
  refine ⟨array, ?_, rfl, ?_, rfl, fun k _ => rfl⟩
  · rw [dioSetVal_mod hbyte, ← h, setBit_bitAt hbyte]
  · rw [dioGetVal_mod hbyte, h]
    simp

variable (hj : j.toNat < 8 * array.length)

include hj

theorem CoilLaw.of_distinct (h : i.toNat < 2048) (hne : j.toNat % 2048 ≠ i.toNat) : CoilLaw array i j status := by
  have hmod : i.toNat % 2048 = i.toNat := Nat.mod_eq_of_lt h
  have hbyte : i.toNat / 8 < array.length := by omega
  refine ⟨_, dioSetVal_mod (by omega) status, length_setBit _ _ _, ?_, ?_, ?_⟩
  · rw [dioGetVal_mod (by rw [length_setBit]; omega), hmod, bitAt_setBit hbyte, if_pos rfl]
    simp
  · rw [dioGetVal_mod (by rw [length_setBit]; omega), dioGetVal_mod (by omega), hmod, bitAt_setBit hbyte,
      if_neg (Ne.symm hne)]
  · intro k hk
    rw [hmod]
    exact getElem?_setBit_ne hk _

/-- The two cases are all in which the promise is kept. -/
theorem coilLaw_iff : CoilLaw array i j status ↔
    (i.toNat < 2048 ∧ j.toNat % 2048 ≠ i.toNat) ∨ bitAt array (i.toNat % 2048) = decide (status ≠ 0) := by
  constructor
  · rintro ⟨after, hset, -, -, hget, hframe⟩
    have hbyte : i.toNat % 2048 / 8 < array.length := by omega
    rw [dioSetVal_mod hbyte] at hset
    cases hset
    by_cases h : i.toNat < 2048
    · by_cases hne : j.toNat % 2048 = i.toNat
      · -- `j` denotes the coil that is written
        right
        rw [dioGetVal_mod (by rw [length_setBit]; omega), dioGetVal_mod (by omega), hne, Nat.mod_eq_of_lt h,
          bitAt_setBit (by omega), if_pos rfl] at hget
        rw [Nat.mod_eq_of_lt h]
        by_cases hs : status = 0 <;> cases hb : bitAt array i.toNat <;> simp_all
      · exact .inl ⟨h, hne⟩
    · -- the byte that is written is not that of `i`, so it is left as it was
      right
      have hsame : setBit array (i.toNat % 2048) (decide (status ≠ 0)) = array := by
        apply List.ext_getElem?
        intro k
        by_cases hk : k = i.toNat / 8
        · exact getElem?_setBit_ne (by omega) _
        · exact hframe k hk
      have hbit := congrArg (fun l => bitAt l (i.toNat % 2048)) hsame
      simp only [bitAt_setBit hbyte, if_true] at hbit
      exact hbit.symm
  · rintro (⟨h, hne⟩ | h)
    · exact CoilLaw.of_distinct hi hj h hne
    · exact CoilLaw.of_unchanged hi h

end Law

/-- Coil 2048 of a larger empty bank denotes coil 0. -/
theorem not_coilLaw_replicate {len : Nat} (hlen : 256 < len) : ¬ CoilLaw (List.replicate len 0) 2048 0 1 := by
  rw [coilLaw_iff (by simp; omega) (by simp; omega)]
  rintro (⟨hlt, -⟩ | hbit)
  · simp at hlt
  · obtain ⟨k, rfl⟩ : ∃ k, len = k + 1 := ⟨len - 1, by omega⟩
    simp [bitAt, List.replicate_succ] at hbit

/-- **The coil accessors are a bit array** where the index written is below 2048 and the index read denotes
another coil, or where nothing is changed; for all indices of a bank exactly if it has at most 256 bytes. -/
theorem coil_accessors_iff (len : Nat) :
    (∀ (array : List UInt8) (i j : UInt16) (status : Int), array.length = len → i.toNat < 8 * len →
      j.toNat < 8 * len → i ≠ j →
        (CoilLaw array i j status ↔
          (i.toNat < 2048 ∧ j.toNat % 2048 ≠ i.toNat) ∨ bitAt array (i.toNat % 2048) = decide (status ≠ 0))) ∧
      ((∀ (array : List UInt8) (i j : UInt16) (status : Int), array.length = len → i.toNat < 8 * len →
        j.toNat < 8 * len → i ≠ j → CoilLaw array i j status) ↔ len ≤ 256) := by
  refine ⟨?_, ?_, ?_⟩
  · rintro array i j status rfl hi hj -
    exact coilLaw_iff hi hj
  · intro h
    by_contra hlen
    exact not_coilLaw_replicate (by omega)
      (h (List.replicate len 0) 2048 0 1 List.length_replicate (by simp; omega) (by simp; omega) (by decide))
  · rintro hlen array i j status rfl hi hj hij
    refine CoilLaw.of_distinct hi hj (by omega) ?_
    rw [Nat.mod_eq_of_lt (by omega)]
    exact fun h => hij (UInt16.toNat_inj.mp h.symm)

/-- In a bank of 257 bytes, setting coil 2048 does not leave coil 0. -/
theorem coil_accessors_alias :
    (2048 : UInt16).toNat < 8 * (List.replicate 257 (0 : UInt8)).length ∧
      ¬ CoilLaw (List.replicate 257 0) 2048 0 1 :=
  ⟨by rw [List.length_replicate]; decide, not_coilLaw_replicate (by decide)⟩

end SmallModbus
