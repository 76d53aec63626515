import Remittance.Proofs.ExactValue
import Remittance.Proofs.Rounding

/-!
# Rounding with a sign

Sums and differences of finite numbers are counted exactly in units and rounded once.
`nearestUnits` rounds a count with its sign, and `Rounded` says what becomes of the
count: a finite number of the rounded units, or an infinity from the overflow point on.
Addition, subtraction and the conversion of an integer all follow it (`rounded_add`,
`rounded_sub`, `rounded_ofInt?`).
-/

namespace Remittance

namespace Binary64

/-- A count of units with its sign, rounded to fifty-three significant bits. -/
def nearestUnits (total : Int) : Int :=
  if total < 0 then -(roundUnits total.natAbs 1 : Int) else roundUnits total.natAbs 1

variable {total bound : Int}

theorem nearestUnits_of_nonneg (h : 0 ≤ total) :
    nearestUnits total = roundUnits total.natAbs 1 :=
  if_neg (not_lt.mpr h)

theorem nearestUnits_of_neg (h : total < 0) :
    nearestUnits total = -(roundUnits total.natAbs 1 : Int) :=
  if_pos h

theorem isSignificant_zero : IsSignificant 0 :=
  ⟨0, 0, by decide, rfl⟩

@[simp] theorem nearestUnits_zero : nearestUnits 0 = 0 := by
  rw [nearestUnits_of_nonneg le_rfl, Int.natAbs_zero, roundUnits_eq_self isSignificant_zero]
  rfl

@[simp] theorem nearestUnits_neg (total : Int) : nearestUnits (-total) = -nearestUnits total := by
  rcases lt_trichotomy total 0 with hneg | rfl | hpos
  · rw [nearestUnits_of_neg hneg, nearestUnits_of_nonneg (by omega), Int.natAbs_neg, neg_neg]
  · rw [neg_zero, nearestUnits_zero, neg_zero]
  · rw [nearestUnits_of_neg (by omega), nearestUnits_of_nonneg hpos.le, Int.natAbs_neg]

theorem natAbs_nearestUnits (total : Int) :
    (nearestUnits total).natAbs = roundUnits total.natAbs 1 := by
  rcases lt_or_ge total 0 with hneg | hnonneg
  · rw [nearestUnits_of_neg hneg, Int.natAbs_neg, Int.natAbs_natCast]
  · rw [nearestUnits_of_nonneg hnonneg, Int.natAbs_natCast]

/-- Rounding does not pass a bound of fifty-three bits, whatever its sign. -/
theorem nearestUnits_le (hbound : IsSignificant bound.natAbs) (h : total ≤ bound) :
    nearestUnits total ≤ bound := by
  rcases lt_or_ge total 0 with hneg | hnonneg
  · rw [nearestUnits_of_neg hneg]
    rcases lt_or_ge bound 0 with hbneg | hbnonneg
    · -- below zero the larger number has the smaller magnitude
      have hround : bound.natAbs ≤ roundUnits total.natAbs 1 :=
        le_roundUnits Nat.one_pos hbound (by omega)
      omega
    · omega
  · have hround : roundUnits total.natAbs 1 ≤ bound.natAbs :=
      roundUnits_le Nat.one_pos hbound (by omega)
    rw [nearestUnits_of_nonneg hnonneg]
    omega

theorem le_nearestUnits (hbound : IsSignificant bound.natAbs) (h : bound ≤ total) :
    bound ≤ nearestUnits total := by
  have hneg : nearestUnits (-total) ≤ -bound :=
    nearestUnits_le (by rwa [Int.natAbs_neg]) (neg_le_neg h)
  rw [nearestUnits_neg] at hneg
  exact neg_le_neg_iff.mp hneg

theorem nearestUnits_nonneg (h : 0 ≤ total) : 0 ≤ nearestUnits total := by
  rw [nearestUnits_of_nonneg h]
  exact Int.natCast_nonneg _

theorem nearestUnits_eq_self (h : IsSignificant total.natAbs) : nearestUnits total = total :=
  le_antisymm (nearestUnits_le h le_rfl) (le_nearestUnits h le_rfl)

theorem pow_dvd_nearestUnits {exponent : Nat} (h : (2 ^ exponent : Int) ∣ total) :
    (2 ^ exponent : Int) ∣ nearestUnits total := by
  have habs : 2 ^ exponent ∣ total.natAbs := by
    have hnat := Int.natAbs_dvd_natAbs.mpr h
    rwa [Int.natAbs_pow] at hnat
  have hround := pow_dvd_roundUnits habs
  rw [← natAbs_nearestUnits] at hround
  rw [← Int.natAbs_dvd_natAbs, Int.natAbs_pow]
  exact hround

/-! ## Finite numbers in units -/

theorem natAbs_signedUnits (negative : Bool) (magnitude : Magnitude) :
    (signedUnits negative magnitude).natAbs = magnitude.units := by
  cases negative with
  | false => exact Int.natAbs_natCast _
  | true => exact (Int.natAbs_neg _).trans (Int.natAbs_natCast _)

theorem isSignificant_signedUnits (negative : Bool) (magnitude : Magnitude) :
    IsSignificant (signedUnits negative magnitude).natAbs := by
  rw [natAbs_signedUnits]
  exact magnitude.significant

/-- A finite number lies below the overflow point, since rounding leaves it alone. -/
theorem signedUnits_lt_overflow (negative : Bool) (magnitude : Magnitude) :
    (signedUnits negative magnitude).natAbs < overflowFrom * unitsPerOne := by
  rw [natAbs_signedUnits, ← roundUnits_lt_limit_iff, roundUnits_eq_self magnitude.significant]
  exact magnitude.lt_limit

/-- What a count of units becomes when it is rounded: a finite number of the rounded
units, or an infinity of the same sign. -/
inductive Rounded (total : Int) : Binary64 → Prop
  | finite {negative : Bool} {magnitude : Magnitude}
      (hunits : signedUnits negative magnitude = nearestUnits total)
      (hlt : total.natAbs < overflowFrom * unitsPerOne) :
      Rounded total (.finite negative magnitude)
  | infinite (hge : overflowFrom * unitsPerOne ≤ total.natAbs) :
      Rounded total (.infinite (total < 0))

theorem rounded_ofRatio (total : Int) :
    Rounded total (ofRatio (total < 0) total.natAbs 1) := by
  by_cases hlt : roundUnits total.natAbs 1 < unitsLimit
  · rw [ofRatio, dif_pos hlt]
    refine .finite ?_ (roundUnits_lt_limit_iff.mp hlt)
    rw [signedUnits, nearestUnits]
    by_cases hneg : total < 0 <;> simp [hneg]
  · rw [ofRatio, dif_neg hlt]
    exact .infinite (not_lt.mp (mt roundUnits_lt_limit_iff.mpr hlt))

theorem overflow_pos : 0 < overflowFrom * unitsPerOne := by
  decide +kernel

/-- A sum is that of the exact units, rounded once. -/
theorem rounded_add (s t : Bool) (a b : Magnitude) :
    Rounded (signedUnits s a + signedUnits t b) (add (.finite s a) (.finite t b)) := by
  unfold add
  dsimp only
  split
  · rename_i hzero
    rw [hzero]
    refine .finite ?_ overflow_pos
    rw [nearestUnits_zero]
    cases s && t <;> rfl
  · exact rounded_ofRatio _

theorem signedUnits_not (negative : Bool) (magnitude : Magnitude) :
    signedUnits (!negative) magnitude = -signedUnits negative magnitude := by
  cases negative with
  | false => rfl
  | true => exact (neg_neg _).symm

theorem rounded_sub (s t : Bool) (a b : Magnitude) :
    Rounded (signedUnits s a - signedUnits t b) (sub (.finite s a) (.finite t b)) := by
  have h := rounded_add s (!t) a b
  rwa [signedUnits_not, ← sub_eq_add_neg] at h

/-- An integer that becomes a number becomes a finite one of its rounded units. -/
theorem rounded_ofInt? {n : Int} {x : Binary64} (h : ofInt? n = some x) :
    ∃ negative magnitude, x = .finite negative magnitude ∧
      signedUnits negative magnitude = nearestUnits (n * unitsPerOne) := by
  have hpos : (0 : Int) < unitsPerOne := by exact_mod_cast unitsPerOne_pos
  have hsign : n * unitsPerOne < 0 ↔ n < 0 := by
    rw [← not_le, ← not_le, mul_nonneg_iff_of_pos_right hpos]
  have hround := rounded_ofRatio (n * unitsPerOne)
  simp only [hsign, Int.natAbs_mul, Int.natAbs_natCast] at hround
  rw [ofInt?] at h
  generalize ofRatio (decide (n < 0)) (n.natAbs * unitsPerOne) 1 = y at h hround
  cases hround with
  | finite hunits _ =>
      cases h
      exact ⟨_, _, rfl, hunits⟩
  | infinite _ => cases h

end Binary64

end Remittance
