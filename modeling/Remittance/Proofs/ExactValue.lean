import Mathlib
import Remittance.Value

/-!
# Exact values

A finite number is equal to one rational number. A number is compared with an
integer by that value and not by a rounded one (`reaches_iff`).
-/

namespace Remittance

namespace Binary64

/-- The rational number that a double-precision number is equal to. -/
def toRat? : Binary64 → Option ℚ
  | .finite negative magnitude => some (signedUnits negative magnitude / unitsPerOne)
  | _ => none

theorem unitsPerOne_pos : (0 : ℚ) < unitsPerOne := by
  have hpos : 0 < unitsPerOne := Nat.two_pow_pos 1074
  exact_mod_cast hpos

theorem not_ltInt_finite_iff {negative : Bool} {magnitude : Magnitude} {n : Int} :
    (!(Binary64.finite negative magnitude).ltInt n) = true ↔
      (n : ℚ) ≤ signedUnits negative magnitude / unitsPerOne := by
  rw [le_div_iff₀ unitsPerOne_pos, ltInt, Bool.not_eq_true', decide_eq_false_iff_not, not_lt]
  exact_mod_cast Iff.rfl

end Binary64

namespace Number

def toRat? : Number → Option ℚ
  | .whole value => some value
  | .double value => value.toRat?

end Number

namespace Value

/-- The value is a number, and as an exact one it is at least `n`. -/
def Covers (v : Value) (n : Int) : Prop :=
  ∃ x q, v = .number x ∧ x.toRat? = some q ∧ (n : ℚ) ≤ q

/-- Of finite numbers, comparison is that of the exact values. -/
theorem reaches_iff {x : Number} (hx : x.isFinite = true) {n : Int} :
    (Value.number x).reaches n = true ↔ (Value.number x).Covers n := by
  constructor
  · intro h
    cases x with
    | whole value =>
        refine ⟨.whole value, value, rfl, rfl, ?_⟩
        have hle : ¬ value < n := by simpa [reaches, Number.ltInt] using h
        exact_mod_cast not_lt.mp hle
    | double value =>
        cases value with
        | finite negative magnitude =>
            exact ⟨_, _, rfl, rfl, Binary64.not_ltInt_finite_iff.mp h⟩
        | infinite negative => cases hx
        | nan => cases hx
  · rintro ⟨y, q, heq, hq, hle⟩
    cases heq
    cases x with
    | whole value =>
        cases hq
        have hle' : n ≤ value := by exact_mod_cast hle
        simpa [reaches, Number.ltInt] using hle'
    | double value =>
        cases value with
        | finite negative magnitude =>
            cases hq
            exact Binary64.not_ltInt_finite_iff.mpr hle
        | infinite negative => cases hx
        | nan => cases hx

end Value

end Remittance
