import Mathlib
import Remittance.Number.Basic

/-!
# Rounding between bounds

Rounding to fifty-three bits never passes a count of units that fifty-three bits can
hold, from either side (`roundUnits_le`, `le_roundUnits`), and leaves such a count
alone (`roundUnits_eq_self`). So every integer up to the largest double-precision number
becomes a finite one (`ofInt?_eq_finite`), and such an amount can be added to and
taken from any balance. What is rounded past the largest number starts half a step
above it (`roundUnits_lt_limit_iff`).
-/

namespace Remittance

namespace Binary64

theorem roundDiv_le_of_le_mul {num den bound : Nat} (hden : 0 < den) (h : num ≤ bound * den) :
    roundDiv num den ≤ bound := by
  have hq : num / den ≤ bound := Nat.div_le_of_le_mul (by rwa [Nat.mul_comm])
  have hdiv := Nat.div_add_mod num den
  rcases Nat.lt_or_ge (num / den) bound with hlt | hge
  · have := roundDiv_le num den
    omega
  · -- the bound is reached, so nothing is left over that could be rounded up
    have heq : num / den = bound := by omega
    have hrest : num % den = 0 := by
      rw [heq, Nat.mul_comm] at hdiv
      omega
    unfold roundDiv
    dsimp only
    rw [hrest, heq, if_pos (by omega)]

/-- A count that fifty-three bits hold is a whole number of the steps around any
smaller count. -/
theorem spacing_dvd {units bound : Nat} (hbound : IsSignificant bound) (h : units ≤ bound) :
    spacing units ∣ bound := by
  obtain ⟨significand, exponent, hlt, rfl⟩ := hbound
  change significand < 2 ^ 53 at hlt
  change units ≤ significand * 2 ^ exponent at h
  change 2 ^ (units.log2 - 52) ∣ significand * 2 ^ exponent
  rcases Nat.lt_or_ge exponent (units.log2 - 52) with hsmall | hlarge
  · -- a bound with a smaller power would lie below the leading bit of the count
    exfalso
    have hunits : units ≠ 0 := by
      rintro rfl
      rw [Nat.log2_zero] at hsmall
      omega
    have hle : 2 ^ units.log2 ≤ units := Nat.log2_self_le hunits
    have hpow : 2 ^ (53 + exponent) ≤ 2 ^ units.log2 :=
      Nat.pow_le_pow_right (by decide) (by omega)
    have hmul : significand * 2 ^ exponent < 2 ^ 53 * 2 ^ exponent :=
      Nat.mul_lt_mul_of_pos_right hlt (Nat.two_pow_pos exponent)
    rw [← Nat.pow_add] at hmul
    omega
  · exact Dvd.dvd.mul_left (Nat.pow_dvd_pow 2 hlarge) significand

/-- Rounding keeps to every bound that is itself a count of fifty-three bits. -/
theorem roundUnits_le {num den bound : Nat} (hden : 0 < den) (hbound : IsSignificant bound)
    (h : num ≤ bound * den) : roundUnits num den ≤ bound := by
  have hq : num / den ≤ bound := Nat.div_le_of_le_mul (by rwa [Nat.mul_comm])
  obtain ⟨steps, hsteps⟩ := spacing_dvd hbound hq
  have hstep : 0 < spacing (num / den) := spacing_pos _
  have hnum : num ≤ steps * (den * spacing (num / den)) := by
    calc num ≤ bound * den := h
      _ = spacing (num / den) * steps * den := by rw [← hsteps]
      _ = steps * (den * spacing (num / den)) := by ring
  have hround := roundDiv_le_of_le_mul (Nat.mul_pos hden hstep) hnum
  calc roundUnits num den
      = roundDiv num (den * spacing (num / den)) * spacing (num / den) := rfl
    _ ≤ steps * spacing (num / den) := Nat.mul_le_mul_right _ hround
    _ = bound := by rw [Nat.mul_comm, ← hsteps]

/-! ## Bounds from below -/

theorem div_le_roundDiv (num den : Nat) : num / den ≤ roundDiv num den := by
  unfold roundDiv
  dsimp only
  split
  · exact Nat.le_refl _
  · split <;> omega

/-- The leading bit of a count is a whole number of the steps around it. -/
theorem spacing_dvd_leading (units : Nat) : spacing units ∣ 2 ^ units.log2 :=
  Nat.pow_dvd_pow 2 (Nat.sub_le _ _)

/-- A multiple of the step that a quotient reaches is not undercut by rounding. -/
theorem le_roundUnits_of_dvd {num den bound : Nat} (hden : 0 < den)
    (hdvd : spacing (num / den) ∣ bound) (h : bound * den ≤ num) :
    bound ≤ roundUnits num den := by
  obtain ⟨steps, hsteps⟩ := hdvd
  have hstep : 0 < spacing (num / den) := spacing_pos _
  have hquot : steps ≤ num / (den * spacing (num / den)) := by
    rw [Nat.le_div_iff_mul_le (Nat.mul_pos hden hstep)]
    calc steps * (den * spacing (num / den)) = spacing (num / den) * steps * den := by ring
      _ = bound * den := by rw [← hsteps]
      _ ≤ num := h
  calc bound = steps * spacing (num / den) := by rw [hsteps, Nat.mul_comm]
    _ ≤ roundDiv num (den * spacing (num / den)) * spacing (num / den) :=
        Nat.mul_le_mul_right _ (hquot.trans (div_le_roundDiv _ _))
    _ = roundUnits num den := rfl

/-- Rounding does not undercut a count of fifty-three bits that the quotient reaches. -/
theorem le_roundUnits {num den bound : Nat} (hden : 0 < den) (hbound : IsSignificant bound)
    (h : bound * den ≤ num) : bound ≤ roundUnits num den := by
  have hq : bound ≤ num / den := (Nat.le_div_iff_mul_le hden).mpr h
  rcases Nat.eq_zero_or_pos bound with rfl | hpos
  · exact Nat.zero_le _
  have hne : num / den ≠ 0 := by omega
  have hlog : bound.log2 ≤ (num / den).log2 :=
    (Nat.le_log2 hne).mpr ((Nat.log2_self_le (by omega)).trans hq)
  rcases Nat.eq_or_lt_of_le hlog with heq | hlt
  · -- in one binade the steps around both are the same
    refine le_roundUnits_of_dvd hden ?_ h
    have hself := spacing_dvd hbound (Nat.le_refl bound)
    rwa [spacing, heq] at hself
  · -- the leading bit of the quotient lies between the two
    have hlead : 2 ^ (num / den).log2 ≤ num / den := Nat.log2_self_le hne
    have hbelow : bound < 2 ^ (num / den).log2 := (Nat.log2_lt (by omega)).mp hlt
    have hround := le_roundUnits_of_dvd hden (spacing_dvd_leading (num / den))
      ((Nat.le_div_iff_mul_le hden).mp hlead)
    omega

/-- A count that fifty-three bits hold is not changed by rounding. -/
theorem roundUnits_eq_self {units : Nat} (h : IsSignificant units) : roundUnits units 1 = units :=
  Nat.le_antisymm (roundUnits_le Nat.one_pos h (Nat.mul_one _).ge)
    (le_roundUnits Nat.one_pos h (Nat.mul_one _).le)

/-- A count is held by fifty-three bits when it is a whole number of the steps around it. -/
theorem isSignificant_of_dvd {units : Nat} (h : spacing units ∣ units) : IsSignificant units := by
  obtain ⟨steps, hsteps⟩ := h
  refine ⟨steps, units.log2 - 52, ?_, by rw [Nat.mul_comm]; exact hsteps⟩
  have hlt := div_mul_spacing_lt units 1
  rw [Nat.div_one, Nat.one_mul] at hlt
  calc steps = units / spacing units := (Nat.div_eq_of_eq_mul_right (spacing_pos units) hsteps).symm
    _ < significandLimit := hlt

theorem spacing_dvd_roundUnits (units : Nat) : spacing units ∣ roundUnits units 1 := by
  rw [roundUnits, Nat.div_one]
  exact Nat.dvd_mul_left _ _

/-- Rounding keeps every power of two that divides a count. -/
theorem pow_dvd_roundUnits {units exponent : Nat} (h : 2 ^ exponent ∣ units) :
    2 ^ exponent ∣ roundUnits units 1 := by
  rcases Nat.le_total exponent (units.log2 - 52) with hle | hge
  · have hstep : 2 ^ exponent ∣ spacing units := Nat.pow_dvd_pow 2 hle
    rw [roundUnits, Nat.div_one]
    exact hstep.mul_left _
  · -- the count is a whole number of steps, so it is not rounded at all
    have hstep : spacing units ∣ units := (Nat.pow_dvd_pow 2 hge).trans h
    rwa [roundUnits_eq_self (isSignificant_of_dvd hstep)]

/-! ## Rounding at a power of two -/

/-- Below a power of two the last step is rounded down in its lower half and up in its
upper one. The tie goes up, for the power of two is the even neighbour. -/
theorem roundUnits_last_step {units exponent : Nat}
    (hlow : (2 * significandLimit - 2) * 2 ^ exponent ≤ units)
    (hhigh : units < 2 * significandLimit * 2 ^ exponent) :
    roundUnits units 1 =
      (if units < (2 * significandLimit - 1) * 2 ^ exponent then significandLimit - 1
        else significandLimit) * (2 * 2 ^ exponent) := by
  have hpos : 0 < 2 ^ exponent := Nat.two_pow_pos exponent
  have hlimit : 2 * significandLimit = 2 ^ 54 := by decide
  have hlog : units.log2 = 53 + exponent := by
    have htop : 2 ^ (53 + exponent + 1) = 2 * significandLimit * 2 ^ exponent := by
      rw [hlimit, ← Nat.pow_add]
      congr 1
      omega
    have hbottom : 2 ^ (53 + exponent) = 2 ^ 53 * 2 ^ exponent := Nat.pow_add 2 53 exponent
    have hle : 2 ^ 53 * 2 ^ exponent ≤ (2 * significandLimit - 2) * 2 ^ exponent :=
      Nat.mul_le_mul_right _ (by decide)
    refine (Nat.log2_eq_iff (by omega)).mpr ⟨by omega, by omega⟩
  have hstep : spacing units = 2 * 2 ^ exponent := by
    have hsub : units.log2 - 52 = exponent + 1 := by omega
    rw [spacing, hsub]
    exact Nat.pow_succ'
  rw [roundUnits, Nat.div_one, hstep, Nat.one_mul]
  congr 1
  have hsig : significandLimit = 2 ^ 53 := rfl
  rw [hsig] at hlow hhigh ⊢
  generalize 2 ^ exponent = half at *
  have hquot : units / (2 * half) = 2 ^ 53 - 1 :=
    Nat.div_eq_of_lt_le (by omega) (by omega)
  have hrest := Nat.div_add_mod units (2 * half)
  rw [hquot] at hrest
  unfold roundDiv
  dsimp only
  rw [hquot]
  by_cases h : units < (2 * 2 ^ 53 - 1) * half
  · rw [if_pos h, if_pos (by omega)]
  · rw [if_neg h, if_neg (by omega)]
    split <;> rfl

/-- Rounding reaches a power of two from half a step below it on. -/
theorem roundUnits_lt_iff {units exponent : Nat} :
    roundUnits units 1 < 2 * significandLimit * 2 ^ exponent ↔
      units < (2 * significandLimit - 1) * 2 ^ exponent := by
  have hpos : 0 < 2 ^ exponent := Nat.two_pow_pos exponent
  have hsig : significandLimit = 2 ^ 53 := rfl
  rcases Nat.lt_or_ge units ((2 * significandLimit - 2) * 2 ^ exponent) with hbelow | hlow
  · have hbound : IsSignificant ((2 * significandLimit - 2) * 2 ^ exponent) := by
      refine ⟨significandLimit - 1, exponent + 1, by decide, ?_⟩
      change _ = (significandLimit - 1) * 2 ^ (exponent + 1)
      rw [Nat.pow_succ', ← Nat.mul_assoc]
      rfl
    have hround := roundUnits_le Nat.one_pos hbound
      (hbelow.le.trans (Nat.mul_one _).ge)
    rw [hsig] at *
    exact iff_of_true (by omega) (by omega)
  rcases Nat.lt_or_ge units (2 * significandLimit * 2 ^ exponent) with hhigh | habove
  · rw [roundUnits_last_step hlow hhigh]
    split
    · rename_i h
      refine iff_of_true ?_ h
      rw [hsig]
      omega
    · rename_i h
      refine iff_of_false ?_ h
      rw [hsig]
      omega
  · have hbound : IsSignificant (2 * significandLimit * 2 ^ exponent) := by
      refine ⟨1, 54 + exponent, by decide, ?_⟩
      rw [Nat.one_mul]
      exact (Nat.pow_add 2 54 exponent).symm
    have hround := le_roundUnits Nat.one_pos hbound
      ((Nat.mul_one _).le.trans habove)
    rw [hsig] at *
    exact iff_of_false (by omega) (by omega)

/-- The least integer that rounds past the largest finite number: it lies half a step
above it. -/
def overflowFrom : Nat := (2 * significandLimit - 1) * Nat.pow 2 970

theorem unitsLimit_eq : unitsLimit = 2 * significandLimit * 2 ^ 2044 := by
  decide +kernel

theorem overflowFrom_mul_unitsPerOne :
    overflowFrom * unitsPerOne = (2 * significandLimit - 1) * 2 ^ 2044 := by
  decide +kernel

/-- Rounding stays below the limit exactly on counts below the overflow point. -/
theorem roundUnits_lt_limit_iff {units : Nat} :
    roundUnits units 1 < unitsLimit ↔ units < overflowFrom * unitsPerOne := by
  rw [unitsLimit_eq, overflowFrom_mul_unitsPerOne]
  exact roundUnits_lt_iff

/-! ## Integers as doubles -/

theorem pow_mul_pow (a b : Nat) : Nat.pow 2 a * Nat.pow 2 b = Nat.pow 2 (a + b) :=
  (Nat.pow_add 2 a b).symm

theorem pow_pos (a : Nat) : 0 < Nat.pow 2 a :=
  Nat.two_pow_pos a

theorem largest_mul_unitsPerOne :
    largest * unitsPerOne = (significandLimit - 1) * Nat.pow 2 (971 + 1074) := by
  rw [largest, unitsPerOne, Nat.mul_assoc, pow_mul_pow]

theorem isSignificant_largest : IsSignificant (largest * unitsPerOne) :=
  ⟨significandLimit - 1, 971 + 1074, by decide, largest_mul_unitsPerOne⟩

theorem significandLimit_mul_pow : significandLimit * Nat.pow 2 (971 + 1074) = unitsLimit := by
  rw [significandLimit, pow_mul_pow, unitsLimit]

theorem largest_lt_limit : largest * unitsPerOne < unitsLimit := by
  have hlt : significandLimit - 1 < significandLimit := by decide
  rw [largest_mul_unitsPerOne, ← significandLimit_mul_pow]
  exact Nat.mul_lt_mul_of_pos_right hlt (pow_pos _)

theorem ofRatio_eq_finite (negative : Bool) {num den : Nat} (h : roundUnits num den < unitsLimit) :
    ∃ magnitude, ofRatio negative num den = .finite negative magnitude :=
  ⟨_, dif_pos h⟩

/-- An integer up to the largest finite number becomes a finite number. -/
theorem ofInt?_eq_finite {n : Int} (h : n.natAbs ≤ largest) :
    ∃ negative magnitude, ofInt? n = some (.finite negative magnitude) := by
  have hle : roundUnits (n.natAbs * unitsPerOne) 1 ≤ largest * unitsPerOne := by
    refine roundUnits_le Nat.one_pos isSignificant_largest ?_
    rw [Nat.mul_one]
    exact Nat.mul_le_mul_right unitsPerOne h
  obtain ⟨magnitude, hmagnitude⟩ :=
    ofRatio_eq_finite (decide (n < 0)) (Nat.lt_of_le_of_lt hle largest_lt_limit)
  exact ⟨_, magnitude, by rw [ofInt?, hmagnitude, finite?]⟩

end Binary64

namespace Number

/-- An amount up to the largest finite number can be added to any balance. -/
theorem exists_plus? (x : Number) {n : Int} (h : n.natAbs ≤ Binary64.largest) :
    ∃ y, x.plus? n = some y := by
  cases x with
  | whole value => exact ⟨_, rfl⟩
  | double value =>
      obtain ⟨negative, magnitude, hn⟩ := Binary64.ofInt?_eq_finite h
      exact ⟨_, by rw [plus?, hn]; rfl⟩

theorem exists_minus? (x : Number) {n : Int} (h : n.natAbs ≤ Binary64.largest) :
    ∃ y, x.minus? n = some y := by
  cases x with
  | whole value => exact ⟨_, rfl⟩
  | double value =>
      obtain ⟨negative, magnitude, hn⟩ := Binary64.ofInt?_eq_finite h
      exact ⟨_, by rw [minus?, hn]; rfl⟩

end Number

end Remittance
