import Remittance.Proofs.Rounding

/-!
# Decimals that read back

A decimal is read by rounding the quotient that it denotes (`ofDecimal_eq_ofRatio`): the two
limits that settle very large and very small powers of ten without computing them agree with
the rounding. So only the value of a decimal counts, and zeros may move between its digits
and its power (`ofDecimal_mul_pow`). Each grid that the search for the shortest decimal
tries offers only decimals that read as the magnitude, and the last one holds the magnitude
itself, hence the decimal that is found reads back (`ofDecimal_shortest`).
-/

namespace Remittance

namespace Binary64

/-! ## Quotients in other terms -/

theorem roundDiv_mul_left {k : Nat} (hk : 0 < k) (num den : Nat) :
    roundDiv (k * num) (k * den) = roundDiv num den := by
  have hlow : 2 * (k * (num % den)) < k * den ↔ 2 * (num % den) < den := by
    rw [Nat.mul_left_comm]
    exact Nat.mul_lt_mul_left hk
  have hhigh : k * den < 2 * (k * (num % den)) ↔ den < 2 * (num % den) := by
    rw [Nat.mul_left_comm]
    exact Nat.mul_lt_mul_left hk
  unfold roundDiv
  simp only [Nat.mul_div_mul_left num den hk, Nat.mul_mod_mul_left, hlow, hhigh]

theorem roundUnits_mul_left {k : Nat} (hk : 0 < k) (num den : Nat) :
    roundUnits (k * num) (k * den) = roundUnits num den := by
  unfold roundUnits
  simp only [Nat.mul_div_mul_left num den hk, Nat.mul_assoc, roundDiv_mul_left hk]

theorem ofRatio_eq_finite_iff {negative : Bool} {num den : Nat} {m : Magnitude} :
    ofRatio negative num den = .finite negative m ↔ roundUnits num den = m.units := by
  unfold ofRatio
  constructor
  · intro h
    split at h
    · cases h
      rfl
    · cases h
  · intro h
    rw [dif_pos (by rw [h]; exact m.lt_limit)]
    exact congrArg _ (Magnitude.ext h)

theorem ofRatio_congr (negative : Bool) {num den num' den' : Nat}
    (h : roundUnits num den = roundUnits num' den') :
    ofRatio negative num den = ofRatio negative num' den' := by
  unfold ofRatio
  simp only [h]

/-- Equal quotients round to the same number. -/
theorem ofRatio_eq_of_mul_eq (negative : Bool) {num den num' den' : Nat} (hden : 0 < den)
    (hden' : 0 < den') (h : num * den' = num' * den) :
    ofRatio negative num den = ofRatio negative num' den' := by
  apply ofRatio_congr
  calc roundUnits num den = roundUnits (den' * num) (den' * den) :=
        (roundUnits_mul_left hden' _ _).symm
    _ = roundUnits (den * num') (den * den') := by
        rw [Nat.mul_comm den' num, h, Nat.mul_comm num' den, Nat.mul_comm den' den]
    _ = roundUnits num' den' := roundUnits_mul_left hden _ _

/-! ## The limits of decimals -/

/-- Less than half a unit is rounded to nothing. -/
theorem roundUnits_eq_zero {num den : Nat} (h : 2 * num < den) : roundUnits num den = 0 := by
  have hquot : num / den = 0 := Nat.div_eq_of_lt (by omega)
  have hstep : spacing 0 = 1 := rfl
  unfold roundUnits
  dsimp only
  rw [hquot, hstep, Nat.mul_one, Nat.mul_one]
  unfold roundDiv
  dsimp only
  rw [hquot, Nat.mod_eq_of_lt (by omega), if_pos h]

theorem isSignificant_unitsLimit : IsSignificant unitsLimit :=
  ⟨1, 2098, by decide, by rw [Nat.one_mul, unitsLimit]⟩

theorem unitsLimit_le_pow : unitsLimit ≤ 10 ^ 310 * unitsPerOne := by
  decide +kernel

/-- From three hundred and ten zeros on a number lies past the largest finite one. -/
theorem ofRatio_large (negative : Bool) {digits e : Nat} (hdigits : digits ≠ 0) (he : 310 ≤ e) :
    ofRatio negative (digits * 10 ^ e * unitsPerOne) 1 = .infinite negative := by
  have hpow : 10 ^ 310 ≤ digits * 10 ^ e := by
    calc 10 ^ 310 ≤ 10 ^ e := Nat.pow_le_pow_right (by decide) he
      _ ≤ digits * 10 ^ e := Nat.le_mul_of_pos_left _ (by omega)
  have hle : unitsLimit ≤ roundUnits (digits * 10 ^ e * unitsPerOne) 1 := by
    apply le_roundUnits Nat.one_pos isSignificant_unitsLimit
    rw [Nat.mul_one]
    exact unitsLimit_le_pow.trans (Nat.mul_le_mul_right _ hpow)
  exact dif_neg (Nat.not_lt.mpr hle)

/-- A power far below the last unit leaves nothing of the digits. -/
theorem ofRatio_small (negative : Bool) {digits e : Nat} (he : digits.log2 + 1100 < e) :
    ofRatio negative (digits * unitsPerOne) (10 ^ (e + 1)) = .finite negative .zero := by
  rw [ofRatio_eq_finite_iff]
  apply roundUnits_eq_zero
  have hone : unitsPerOne = 2 ^ 1074 := rfl
  calc 2 * (digits * unitsPerOne) = digits * (2 * unitsPerOne) := by ring
    _ < 2 ^ (digits.log2 + 1) * (2 * unitsPerOne) := by
        apply Nat.mul_lt_mul_of_pos_right Nat.lt_log2_self
        rw [hone]
        exact Nat.mul_pos Nat.two_pos (Nat.two_pow_pos _)
    _ = 2 ^ (digits.log2 + 1 + (1 + 1074)) := by
        rw [hone, Nat.pow_add 2 (digits.log2 + 1), Nat.pow_add 2 1 1074, Nat.pow_one]
    _ ≤ 2 ^ (e + 1) := Nat.pow_le_pow_right Nat.two_pos (by omega)
    _ ≤ 10 ^ (e + 1) := Nat.pow_le_pow_left (by decide) _

/-- A decimal is read as the nearest number, however large or small its power. -/
theorem ofDecimal_eq_ofRatio (negative : Bool) (digits : Nat) (exponent : Int) :
    ofDecimal negative digits exponent =
      ofRatio negative (digits * 10 ^ exponent.toNat * unitsPerOne) (10 ^ (-exponent).toNat) := by
  unfold ofDecimal
  by_cases hdigits : digits = 0
  · rw [if_pos hdigits, hdigits, Nat.zero_mul, Nat.zero_mul]
    symm
    rw [ofRatio_eq_finite_iff]
    exact roundUnits_eq_zero (Nat.pow_pos (by decide))
  · rw [if_neg hdigits]
    cases exponent with
    | ofNat e =>
        have hup : (Int.ofNat e).toNat = e := rfl
        have hdown : (-Int.ofNat e).toNat = 0 := by simp
        rw [hup, hdown, Nat.pow_zero]
        dsimp only
        split
        · rename_i he
          exact (ofRatio_large negative hdigits he).symm
        · rfl
    | negSucc e =>
        have hup : (Int.negSucc e).toNat = 0 := rfl
        have hdown : (-Int.negSucc e).toNat = e + 1 := rfl
        rw [hup, hdown, Nat.pow_zero, Nat.mul_one]
        dsimp only
        split
        · rename_i he
          exact (ofRatio_small negative he).symm
        · rfl

/-- Zeros behind the digits count as a higher power. -/
theorem ofDecimal_mul_pow (negative : Bool) (digits k : Nat) (exponent : Int) :
    ofDecimal negative (digits * 10 ^ k) exponent = ofDecimal negative digits (exponent + k) := by
  rw [ofDecimal_eq_ofRatio, ofDecimal_eq_ofRatio]
  apply ofRatio_eq_of_mul_eq negative (Nat.pow_pos (by decide)) (Nat.pow_pos (by decide))
  have hpow : 10 ^ k * 10 ^ exponent.toNat * 10 ^ (-(exponent + k)).toNat =
      10 ^ (exponent + k).toNat * 10 ^ (-exponent).toNat := by
    rw [← Nat.pow_add, ← Nat.pow_add, ← Nat.pow_add]
    congr 1
    omega
  calc digits * 10 ^ k * 10 ^ exponent.toNat * unitsPerOne * 10 ^ (-(exponent + k)).toNat
      = digits * unitsPerOne *
          (10 ^ k * 10 ^ exponent.toNat * 10 ^ (-(exponent + k)).toNat) := by ring
    _ = digits * unitsPerOne * (10 ^ (exponent + k).toNat * 10 ^ (-exponent).toNat) := by
        rw [hpow]
    _ = digits * 10 ^ (exponent + k).toNat * unitsPerOne * 10 ^ (-exponent).toNat := by ring

end Binary64

namespace Magnitude

open Binary64

variable {m : Magnitude}

/-! ## The shortest decimal -/

/-- The decimal denotes a number that rounds to the magnitude, with either sign. -/
theorem ofDecimal_of_readsAs {digits : Nat} {exponent : Int}
    (h : m.readsAs digits exponent = true) (negative : Bool) :
    ofDecimal negative digits exponent = .finite negative m := by
  have hfalse : ofDecimal false digits exponent = .finite false m := by
    simpa [readsAs] using h
  rw [ofDecimal_eq_ofRatio, ofRatio_eq_finite_iff] at hfalse ⊢
  exact hfalse

/-- Between two points that read back, the nearer one does. -/
theorem readsAs_roundDiv {num den : Nat} {exponent : Int}
    (hbelow : m.readsAs (num / den) exponent = true)
    (habove : m.readsAs (num / den + 1) exponent = true) :
    m.readsAs (roundDiv num den) exponent = true := by
  have hlow := div_le_roundDiv num den
  have hhigh := roundDiv_le num den
  rcases Nat.eq_or_lt_of_le hlow with heq | hlt
  · rwa [← heq]
  · have hsucc : roundDiv num den = num / den + 1 := by omega
    rwa [hsucc]

/-- A grid offers only points that read as the magnitude. -/
theorem readsAs_of_gridPoint? {exponent : Int} {digits : Nat}
    (h : m.gridPoint? exponent = some digits) : m.readsAs digits exponent = true := by
  unfold gridPoint? at h
  dsimp only at h
  split at h
  · rename_i hbelow
    split at h
    · rename_i habove
      rw [← Option.some.inj h]
      exact readsAs_roundDiv hbelow habove
    · rwa [← Option.some.inj h]
  · split at h
    · rename_i habove
      rwa [← Option.some.inj h]
    · cases h

/-- A magnitude keeps its value when its digits and its divisor get as many fives and
twos. -/
theorem roundUnits_tens (m : Magnitude) (k : Nat) :
    roundUnits (m.units * 5 ^ k * 2 ^ k) (10 ^ k) = m.units := by
  have hnum : m.units * 5 ^ k * 2 ^ k = 10 ^ k * m.units := by
    rw [Nat.mul_assoc, ← Nat.mul_pow, Nat.mul_comm]
  have hscale := roundUnits_mul_left (Nat.pow_pos (by decide) : 0 < 10 ^ k) m.units 1
  rw [Nat.mul_one] at hscale
  rw [hnum, hscale, roundUnits_eq_self m.significant]

/-- On the finest grid the magnitude is a point itself. -/
theorem readsAs_finest (m : Magnitude) : m.readsAs (m.units * Nat.pow 5 1074) (-1074) = true := by
  have hread : ofDecimal false (m.units * Nat.pow 5 1074) (-1074) = .finite false m := by
    have hup : (-1074 : Int).toNat = 0 := rfl
    rw [ofDecimal_eq_ofRatio, ofRatio_eq_finite_iff, hup, Nat.pow_zero, Nat.mul_one]
    exact m.roundUnits_tens 1074
  simpa [readsAs] using hread

theorem readsAs_shortestFrom (m : Magnitude) (start : Nat) :
    m.readsAs (m.shortestFrom start).1 (m.shortestFrom start).2 = true := by
  induction start with
  | zero => exact m.readsAs_finest
  | succ start ih =>
      rw [shortestFrom]
      split
      · rename_i digits h
        exact readsAs_of_gridPoint? h
      · exact ih

/-- The shortest decimal of a magnitude reads back. -/
theorem ofDecimal_shortest (m : Magnitude) (negative : Bool) :
    ofDecimal negative m.shortest.1 m.shortest.2 = .finite negative m :=
  ofDecimal_of_readsAs (m.readsAs_shortestFrom _) negative

theorem shortest_ne_zero (h : m.units ≠ 0) : m.shortest.1 ≠ 0 := by
  intro hzero
  have hread := m.ofDecimal_shortest false
  rw [hzero] at hread
  -- no digits read as zero
  have hm : Magnitude.zero = m := by
    simpa [ofDecimal] using hread
  rw [← hm] at h
  exact h rfl

end Magnitude

end Remittance
