/-
# `SmallModbus.Lib.LfsrPoly` — what a shift register with feedback computes: a remainder.

The register of `Lib.Lfsr` is a polynomial over the field with two elements, its low bit the coefficient of the
highest power (`regPoly`). A shift multiplies it by `X` and takes `modulus p = X ^ w + …` off when the product
has the degree `w` (`regPoly_step`); a bit of the message comes in at `X ^ w`. So the register after a message is
the remainder of `message * X ^ w + preset * X ^ length`, the first bit of the message being the coefficient of
its highest power (`regPoly_run`).
-/
import Mathlib.Algebra.Polynomial.Div
import Mathlib.Algebra.Polynomial.OfFn
import Mathlib.Tactic.LinearCombination
import SmallModbus.Lib.Lfsr

namespace SmallModbus.Lib.Lfsr

open Polynomial

variable {w : Nat}

/-! ## §1 — words as polynomials. -/

/-- The polynomial of a word, bit `i` being the coefficient of `X ^ i`. -/
noncomputable def toPoly (c : BitVec w) : (ZMod 2)[X] := ofFn w fun i => if c.getLsbD i then 1 else 0

@[simp] theorem coeff_toPoly (c : BitVec w) (i : Nat) : (toPoly c).coeff i = if c.getLsbD i then 1 else 0 := by
  unfold toPoly
  by_cases hi : i < w
  · rw [ofFn_coeff_eq_val_of_lt _ hi]
  · rw [ofFn_coeff_eq_zero_of_ge _ (by omega), BitVec.getLsbD_of_ge c i (by omega), if_neg Bool.false_ne_true]

theorem degree_toPoly_lt (c : BitVec w) : (toPoly c).degree < w := ofFn_degree_lt _

/-- The polynomial of a message, its first bit being the coefficient of the highest power. -/
noncomputable def messagePoly : List Bool → (ZMod 2)[X]
  | [] => 0
  | b :: bits => (if b then X ^ bits.length else 0) + messagePoly bits

/-! ## §2 — the register. -/

/-- The polynomial of a register: the bit that is shifted out next has the highest power. -/
noncomputable def regPoly (c : BitVec w) : (ZMod 2)[X] := toPoly c.reverse

/-- What the register divides by. -/
noncomputable def modulus (p : BitVec w) : (ZMod 2)[X] := X ^ w + regPoly p

theorem coeff_regPoly (c : BitVec w) (i : Nat) : (regPoly c).coeff i = if c.getMsbD i then 1 else 0 := by
  rw [regPoly, coeff_toPoly, BitVec.getLsbD_reverse]

theorem degree_regPoly_lt (c : BitVec w) : (regPoly c).degree < w := degree_toPoly_lt _

theorem modulus_monic (p : BitVec w) : (modulus p).Monic := monic_X_pow_add (degree_regPoly_lt p)

theorem degree_modulus (p : BitVec w) : (modulus p).degree = w := by
  rw [modulus, degree_add_eq_left_of_degree_lt]
  · exact degree_X_pow w
  · rw [degree_X_pow]
    exact degree_regPoly_lt p

theorem regPoly_xor (c d : BitVec w) : regPoly (c ^^^ d) = regPoly c + regPoly d := by
  ext i
  rw [coeff_add, coeff_regPoly, coeff_regPoly, coeff_regPoly, BitVec.getMsbD_xor]
  cases c.getMsbD i <;> cases d.getMsbD i <;> decide

theorem coeff_ite_X_pow (b : Bool) (i : Nat) :
    (if b then X ^ w else 0 : (ZMod 2)[X]).coeff i = if b && decide (i = w) then 1 else 0 := by
  cases b <;> simp [coeff_X_pow]

theorem regPoly_unit (hw : 0 < w) (b : Bool) : regPoly (unit b : BitVec w) * X = if b then X ^ w else 0 := by
  have hmsb : ∀ i, (unit b : BitVec w).getMsbD i = (b && decide (i + 1 = w)) := by
    intro i
    rw [BitVec.getMsbD_eq_getLsbD, getLsbD_unit]
    grind
  ext i
  rw [coeff_ite_X_pow]
  cases i with
  | zero => rw [coeff_mul_X_zero, decide_eq_false hw.ne, Bool.and_false, if_neg Bool.false_ne_true]
  | succ i => rw [coeff_mul_X, coeff_regPoly, hmsb]

/-- A shift to the low end is a multiplication by `X` that loses the highest power. -/
theorem regPoly_ushiftRight (c : BitVec w) :
    regPoly (c >>> 1) = regPoly c * X + if c.getLsbD 0 then X ^ w else 0 := by
  ext i
  rw [coeff_add, coeff_regPoly, coeff_ite_X_pow, BitVec.getMsbD_ushiftRight]
  cases i with
  | zero =>
    have hlow : (c.getLsbD 0 && decide (0 = w)) = false := by
      rw [Bool.and_eq_false_iff, decide_eq_false_iff_not, or_iff_not_imp_right, not_not]
      rintro rfl
      exact BitVec.getLsbD_of_ge c 0 le_rfl
    rw [coeff_mul_X_zero, hlow]
    simp
  | succ i =>
    rw [coeff_mul_X, coeff_regPoly, decide_eq_false (by omega : ¬ i + 1 < 1)]
    rcases lt_trichotomy (i + 1) w with hi | hi | hi
    · simp [hi, hi.ne]
    · -- the power that is lost
      have hlow : c.getMsbD i = c.getLsbD 0 := by
        rw [BitVec.getMsbD_eq_getLsbD, decide_eq_true (by omega), Bool.true_and, show w - 1 - i = 0 by omega]
      rw [hlow, decide_eq_true hi, decide_eq_false hi.not_lt, Bool.false_and]
      cases c.getLsbD 0 <;> decide
    · rw [BitVec.getMsbD_of_ge c i (by omega), decide_eq_false hi.ne', decide_eq_false hi.not_gt]
      simp

/-- **One shift** multiplies by `X`, modulo the polynomial of the register. -/
theorem regPoly_step (p c : BitVec w) :
    regPoly (step p c) = regPoly c * X + if c.getLsbD 0 then modulus p else 0 := by
  unfold step modulus
  cases hlow : c.getLsbD 0 with
  | false =>
    rw [if_neg Bool.false_ne_true, regPoly_ushiftRight, hlow]
    rfl
  | true =>
    rw [if_pos rfl, regPoly_xor, regPoly_ushiftRight, hlow, if_pos rfl, if_pos rfl, add_assoc]

/-- **One bit of a message** comes in at `X ^ w`. -/
theorem regPoly_feed (hw : 0 < w) (p c : BitVec w) (b : Bool) :
    ∃ q, regPoly (feed p c b) = regPoly c * X + (if b then X ^ w else 0) + q * modulus p := by
  refine ⟨if (c ^^^ unit b).getLsbD 0 then 1 else 0, ?_⟩
  rw [feed, regPoly_step, regPoly_xor, add_mul, regPoly_unit hw, ite_mul, one_mul, zero_mul]

/-- The induction is on the message: what the register leaves out is a multiple of the modulus. -/
theorem modulus_dvd_run (hw : 0 < w) (p c : BitVec w) (bits : List Bool) :
    modulus p ∣ messagePoly bits * X ^ w + regPoly c * X ^ bits.length - regPoly (run p c bits) := by
  induction bits generalizing c with
  | nil => simp [messagePoly]
  | cons b bits ih =>
    obtain ⟨q, hq⟩ := regPoly_feed hw p c b
    obtain ⟨q', hq'⟩ := ih (feed p c b)
    have hb : (if b then X ^ bits.length else 0 : (ZMod 2)[X]) * X ^ w = (if b then X ^ w else 0) * X ^ bits.length := by
      cases b
      · simp
      · exact mul_comm _ _
    refine ⟨q' - q * X ^ bits.length, ?_⟩
    rw [run_cons, messagePoly, List.length_cons, pow_succ]
    linear_combination hq' + hb - X ^ bits.length * hq

/-- **The register is a remainder**: of the message times `X ^ w`, with what was in the register before it. -/
theorem regPoly_run (hw : 0 < w) (p c : BitVec w) (bits : List Bool) :
    regPoly (run p c bits) = (messagePoly bits * X ^ w + regPoly c * X ^ bits.length) %ₘ modulus p := by
  rw [modByMonic_eq_of_dvd_sub (modulus_monic p) (modulus_dvd_run hw p c bits)]
  refine ((modByMonic_eq_self_iff (modulus_monic p)).mpr ?_).symm
  rw [degree_modulus]
  exact degree_regPoly_lt _

end SmallModbus.Lib.Lfsr
