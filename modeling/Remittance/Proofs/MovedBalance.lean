import Remittance.Proofs.SignedRounding

/-!
# Balances that move

What adding an amount to a balance and taking it away do to the exact value. A balance
never rises above what it was when money is taken and never falls below it when money is
added, although the amount is rounded first (`bounds_of_minus?`, `atLeast_of_plus?`).
Rounding can keep a balance from moving by exactly the amount: it does move so when
the amount and the result are both double-precision numbers (`plus?_exact_iff`), and
when it pays it does not otherwise (`minus?_exact_iff`). A balance that is paid can
overflow, and does so from one point on (`plus?_isFinite_iff`).
-/

namespace Remittance

namespace Binary64

/-- The rational number of a count of units. -/
def unitsValue (units : Int) : ℚ :=
  units / unitsPerOne

theorem unitsValue_le_iff {m n : Int} : unitsValue m ≤ unitsValue n ↔ m ≤ n := by
  rw [unitsValue, unitsValue, div_le_div_iff_of_pos_right unitsPerOne_pos]
  exact_mod_cast Iff.rfl

theorem unitsValue_inj {m n : Int} : unitsValue m = unitsValue n ↔ m = n := by
  rw [le_antisymm_iff, unitsValue_le_iff, unitsValue_le_iff, ← le_antisymm_iff]

theorem unitsValue_add (m n : Int) : unitsValue (m + n) = unitsValue m + unitsValue n := by
  rw [unitsValue, unitsValue, unitsValue, ← add_div]
  push_cast
  rfl

theorem unitsValue_mul_unitsPerOne (n : Int) : unitsValue (n * unitsPerOne) = n := by
  rw [unitsValue, Int.cast_mul, Int.cast_natCast, mul_div_cancel_right₀ _ unitsPerOne_pos.ne']

@[simp] theorem unitsValue_zero : unitsValue 0 = 0 := by
  rw [unitsValue, Int.cast_zero, zero_div]

theorem toRat?_finite (negative : Bool) (magnitude : Magnitude) :
    (Binary64.finite negative magnitude).toRat? =
      some (unitsValue (signedUnits negative magnitude)) :=
  rfl

theorem scaled_lt_limit {significand exponent : Nat} (hs : significand < significandLimit)
    (he : exponent ≤ 971) : significand * Nat.pow 2 (exponent + 1074) < unitsLimit := by
  have hpow : 53 + (exponent + 1074) ≤ 2098 := by omega
  calc significand * Nat.pow 2 (exponent + 1074)
      < significandLimit * Nat.pow 2 (exponent + 1074) :=
        Nat.mul_lt_mul_of_pos_right hs (pow_pos _)
    _ = Nat.pow 2 (53 + (exponent + 1074)) := pow_mul_pow 53 _
    _ ≤ unitsLimit := Nat.pow_le_pow_right Nat.two_pos hpow

/-- The whole number of fifty-three bits at a power of two. -/
def scaled (significand exponent : Nat) (hs : significand < significandLimit)
    (he : exponent ≤ 971) : Binary64 :=
  .finite false ⟨significand * Nat.pow 2 (exponent + 1074), ⟨_, _, hs, rfl⟩,
    scaled_lt_limit hs he⟩

theorem toRat?_scaled {significand exponent : Nat} (hs : significand < significandLimit)
    (he : exponent ≤ 971) :
    (scaled significand exponent hs he).toRat? = some (significand * 2 ^ exponent : ℚ) := by
  have hunits : significand * Nat.pow 2 (exponent + 1074) =
      significand * Nat.pow 2 exponent * unitsPerOne := by
    rw [Nat.mul_assoc, unitsPerOne, pow_mul_pow]
  rw [scaled, toRat?_finite]
  change some (unitsValue ((significand * Nat.pow 2 (exponent + 1074) : Nat) : Int)) = _
  rw [hunits, Nat.cast_mul, unitsValue_mul_unitsPerOne]
  change some ((((significand * 2 ^ exponent : Nat) : Int) : ℚ)) = _
  push_cast
  rfl

/-- The rational number is equal to a double-precision one. -/
def IsDouble (q : ℚ) : Prop :=
  ∃ x : Binary64, x.toRat? = some q

theorem isDouble_unitsValue_iff {units : Int} :
    IsDouble (unitsValue units) ↔ IsSignificant units.natAbs ∧ units.natAbs < unitsLimit := by
  constructor
  · rintro ⟨x, hx⟩
    cases x with
    | finite negative magnitude =>
        rw [toRat?_finite] at hx
        obtain rfl := unitsValue_inj.mp (Option.some.inj hx)
        rw [natAbs_signedUnits]
        exact ⟨magnitude.significant, magnitude.lt_limit⟩
    | infinite negative => cases hx
    | nan => cases hx
  · rintro ⟨hsignificant, hlt⟩
    refine ⟨.finite (units < 0) ⟨units.natAbs, hsignificant, hlt⟩, ?_⟩
    rw [toRat?_finite]
    refine congrArg (fun units => some (unitsValue units)) ?_
    by_cases hneg : units < 0
    · rw [decide_eq_true hneg]
      change -(units.natAbs : Int) = units
      omega
    · rw [decide_eq_false hneg]
      change (units.natAbs : Int) = units
      omega

/-- The number is at least `q`; of the infinities only the positive one is. -/
def AtLeast : Binary64 → ℚ → Prop
  | .finite negative magnitude, q => q ≤ unitsValue (signedUnits negative magnitude)
  | .infinite negative, _ => negative = false
  | .nan, _ => False

variable {total : Int} {x : Binary64}

/-- What is rounded keeps to a lower bound that is itself a finite number. -/
theorem Rounded.atLeast (h : Rounded total x) {negative : Bool} {magnitude : Magnitude}
    (hle : signedUnits negative magnitude ≤ total) :
    x.AtLeast (unitsValue (signedUnits negative magnitude)) := by
  cases h with
  | finite hunits _ =>
      rw [AtLeast, hunits, unitsValue_le_iff]
      exact le_nearestUnits (isSignificant_signedUnits _ _) hle
  | infinite hge =>
      -- a negative total would lie between the bound and zero, far from overflow
      have hlt := signedUnits_lt_overflow negative magnitude
      exact decide_eq_false (by omega)

/-- What is rounded is exact when the total is a finite number, and only then. -/
theorem Rounded.toRat?_eq_total_iff (h : Rounded total x) :
    x.toRat? = some (unitsValue total) ↔ IsDouble (unitsValue total) := by
  constructor
  · intro hx
    exact ⟨x, hx⟩
  · intro hdouble
    obtain ⟨hsignificant, hlt⟩ := isDouble_unitsValue_iff.mp hdouble
    cases h with
    | finite hunits _ => rw [toRat?_finite, hunits, nearestUnits_eq_self hsignificant]
    | infinite hge =>
        rw [← roundUnits_eq_self hsignificant, roundUnits_lt_limit_iff] at hlt
        omega

theorem Rounded.units_of_toRat? (h : Rounded total x) {units : Int}
    (hx : x.toRat? = some (unitsValue units)) : nearestUnits total = units := by
  cases h with
  | finite hunits _ =>
      rw [toRat?_finite] at hx
      rw [← hunits]
      exact unitsValue_inj.mp (Option.some.inj hx)
  | infinite _ => cases hx

theorem Rounded.isFinite_iff (h : Rounded total x) :
    x.isFinite = true ↔ total.natAbs < overflowFrom * unitsPerOne := by
  cases h with
  | finite _ hlt => exact iff_of_true rfl hlt
  | infinite hge => exact iff_of_false Bool.false_ne_true (not_lt.mpr hge)

/-- Numbers at or below the largest finite one keep below it when they are rounded up. -/
theorem Rounded.bounds (h : Rounded total x) {negative : Bool} {magnitude : Magnitude}
    (hnonneg : 0 ≤ total) (hle : total ≤ signedUnits negative magnitude) :
    ∃ q, x.toRat? = some q ∧ 0 ≤ q ∧ q ≤ unitsValue (signedUnits negative magnitude) := by
  cases h with
  | finite hunits _ =>
      refine ⟨_, toRat?_finite _ _, ?_, ?_⟩
      · rw [hunits, ← unitsValue_zero, unitsValue_le_iff]
        exact nearestUnits_nonneg hnonneg
      · rw [hunits, unitsValue_le_iff]
        exact nearestUnits_le (isSignificant_signedUnits _ _) hle
  | infinite hge =>
      have hlt := signedUnits_lt_overflow negative magnitude
      omega

/-! ## Amounts that are rounded first -/

theorem nearestUnits_of_isDouble {n : Int} (h : IsDouble n) :
    nearestUnits (n * unitsPerOne) = n * unitsPerOne := by
  rw [← unitsValue_mul_unitsPerOne n, isDouble_unitsValue_iff] at h
  exact nearestUnits_eq_self h.1

/-- What is taken from a larger number leaves exactly the difference only when it is not
rounded itself. The steps around the smaller number divide the larger one and all that
rounding makes of them. -/
theorem isSignificant_of_exact_sub {units amount : Int} (hunits : IsSignificant units.natAbs)
    (hnonneg : 0 ≤ amount) (hle : amount ≤ units)
    (hexact : nearestUnits (units - nearestUnits amount) = units - amount) :
    IsSignificant amount.natAbs := by
  have hstep : (2 ^ (amount.natAbs.log2 - 52) : Int) ∣ units := by
    rw [← Int.natAbs_dvd_natAbs, Int.natAbs_pow]
    exact spacing_dvd hunits (by omega)
  have hround : (2 ^ (amount.natAbs.log2 - 52) : Int) ∣ nearestUnits amount := by
    rw [← Int.natAbs_dvd_natAbs, Int.natAbs_pow, natAbs_nearestUnits]
    exact spacing_dvd_roundUnits _
  have hdiff := pow_dvd_nearestUnits (dvd_sub hstep hround)
  rw [hexact, dvd_sub_right hstep] at hdiff
  apply isSignificant_of_dvd
  rw [← Int.natAbs_dvd_natAbs, Int.natAbs_pow] at hdiff
  exact hdiff

end Binary64

open Binary64

namespace Number

/-! ## What a move can do -/

variable {x y : Number} {n : Int} {amount : Nat} {q : ℚ}

/-- A number with an exact value is a whole one or a finite double. -/
theorem cases_of_toRat? (h : x.toRat? = some q) :
    (∃ value : Int, x = .whole value ∧ q = value) ∨
    ∃ negative magnitude, x = .double (.finite negative magnitude) ∧
      q = unitsValue (signedUnits negative magnitude) := by
  cases x with
  | whole value => exact Or.inl ⟨value, rfl, (Option.some.inj h).symm⟩
  | double value =>
      cases value with
      | finite negative magnitude =>
          exact Or.inr ⟨negative, magnitude, rfl, (Option.some.inj h).symm⟩
      | infinite _ => cases h
      | nan => cases h

/-- Whole numbers are added exactly. A double takes the rounded integer, and the sum is
rounded again. -/
theorem plus?_cases (hx : x.toRat? = some q) (h : x.plus? n = some y) :
    (∃ value : Int, x = .whole value ∧ q = value ∧ y = .whole (value + n)) ∨
    ∃ negative magnitude z, x = .double (.finite negative magnitude) ∧
      q = unitsValue (signedUnits negative magnitude) ∧ y = .double z ∧
      Rounded (signedUnits negative magnitude + nearestUnits (n * unitsPerOne)) z := by
  rcases cases_of_toRat? hx with ⟨value, rfl, rfl⟩ | ⟨negative, magnitude, rfl, rfl⟩
  · exact Or.inl ⟨value, rfl, rfl, (Option.some.inj h).symm⟩
  · rw [plus?, Option.map_eq_some_iff] at h
    obtain ⟨r, hr, rfl⟩ := h
    obtain ⟨t, b, rfl, hb⟩ := rounded_ofInt? hr
    rw [← hb]
    exact Or.inr ⟨negative, magnitude, _, rfl, rfl, rfl, rounded_add _ _ _ _⟩

theorem minus?_cases (hx : x.toRat? = some q) (h : x.minus? n = some y) :
    (∃ value : Int, x = .whole value ∧ q = value ∧ y = .whole (value - n)) ∨
    ∃ negative magnitude z, x = .double (.finite negative magnitude) ∧
      q = unitsValue (signedUnits negative magnitude) ∧ y = .double z ∧
      Rounded (signedUnits negative magnitude - nearestUnits (n * unitsPerOne)) z := by
  rcases cases_of_toRat? hx with ⟨value, rfl, rfl⟩ | ⟨negative, magnitude, rfl, rfl⟩
  · exact Or.inl ⟨value, rfl, rfl, (Option.some.inj h).symm⟩
  · rw [minus?, Option.map_eq_some_iff] at h
    obtain ⟨r, hr, rfl⟩ := h
    obtain ⟨t, b, rfl, hb⟩ := rounded_ofInt? hr
    rw [← hb]
    exact Or.inr ⟨negative, magnitude, _, rfl, rfl, rfl, rounded_sub _ _ _ _⟩

/-! ## Bounds -/

/-- The number is at least `q`, as an exact number or as the positive infinity. -/
def AtLeast : Number → ℚ → Prop
  | .whole value, q => q ≤ value
  | .double value, q => value.AtLeast q

theorem amountUnits_nonneg (amount : Nat) : 0 ≤ (amount : Int) * unitsPerOne := by
  exact_mod_cast Nat.zero_le (amount * unitsPerOne)

theorem amountUnits_le {units : Int} (h : (amount : ℚ) ≤ unitsValue units) :
    (amount : Int) * unitsPerOne ≤ units := by
  rw [← unitsValue_le_iff, unitsValue_mul_unitsPerOne]
  exact_mod_cast h

/-- Taking an amount from a balance that covers it leaves something between zero and what
there was. -/
theorem bounds_of_minus? (hx : x.toRat? = some q) (hle : (amount : ℚ) ≤ q)
    (h : x.minus? amount = some y) : ∃ r, y.toRat? = some r ∧ 0 ≤ r ∧ r ≤ q := by
  have hamount : (0 : ℚ) ≤ amount := Nat.cast_nonneg amount
  rcases minus?_cases hx h with ⟨value, rfl, rfl, rfl⟩ | ⟨negative, magnitude, z, rfl, rfl, rfl, hz⟩
  · refine ⟨_, rfl, ?_, ?_⟩ <;> push_cast <;> linarith
  · -- the rounded amount still lies between zero and the balance
    have hnonneg := nearestUnits_nonneg (amountUnits_nonneg amount)
    have hbound := nearestUnits_le (isSignificant_signedUnits negative magnitude)
      (amountUnits_le hle)
    exact hz.bounds (by omega) (by omega)

/-- Adding an amount to a balance leaves at least what there was. -/
theorem atLeast_of_plus? (hx : x.toRat? = some q) (h : x.plus? amount = some y) :
    y.AtLeast q := by
  have hamount : (0 : ℚ) ≤ amount := Nat.cast_nonneg amount
  rcases plus?_cases hx h with ⟨value, rfl, rfl, rfl⟩ | ⟨negative, magnitude, z, rfl, rfl, rfl, hz⟩
  · rw [AtLeast]
    push_cast
    linarith
  · have hnonneg := nearestUnits_nonneg (amountUnits_nonneg amount)
    exact hz.atLeast (by omega)

/-! ## Exact moves -/

/-- Numbers of the kind of the balance hold the amount. -/
def CanTake : Number → Int → Prop
  | .whole _, _ => True
  | .double _, n => IsDouble n

/-- Numbers of the kind of the balance hold what it is after a move by `n`. -/
def CanBecome : Number → Int → Prop
  | .whole _, _ => True
  | .double value, n => ∃ q, value.toRat? = some q ∧ IsDouble (q + n)

theorem canBecome_double_iff {negative : Bool} {magnitude : Magnitude} :
    (Number.double (.finite negative magnitude)).CanBecome n ↔
      IsDouble (unitsValue (signedUnits negative magnitude + n * unitsPerOne)) := by
  rw [CanBecome, toRat?_finite, unitsValue_add, unitsValue_mul_unitsPerOne]
  simp only [Option.some.injEq, exists_eq_left']

/-- An amount of the same kind of number is added exactly when the result is of that kind
too. -/
theorem plus?_exact_iff (hx : x.toRat? = some q) (htake : x.CanTake n)
    (h : x.plus? n = some y) : y.toRat? = some (q + n) ↔ x.CanBecome n := by
  rcases plus?_cases hx h with ⟨value, rfl, rfl, rfl⟩ | ⟨negative, magnitude, z, rfl, rfl, rfl, hz⟩
  · refine iff_of_true ?_ trivial
    rw [toRat?, Int.cast_add]
  · rw [nearestUnits_of_isDouble htake] at hz
    rw [canBecome_double_iff, ← hz.toRat?_eq_total_iff, unitsValue_add,
      unitsValue_mul_unitsPerOne]
    rfl

/-- An amount is taken exactly from a balance that covers it when the amount and the result
are numbers of its kind, and only then. -/
theorem minus?_exact_iff (hx : x.toRat? = some q) (hle : (amount : ℚ) ≤ q)
    (h : x.minus? amount = some y) :
    y.toRat? = some (q - amount) ↔ x.CanTake amount ∧ x.CanBecome (-amount) := by
  rcases minus?_cases hx h with ⟨value, rfl, rfl, rfl⟩ | ⟨negative, magnitude, z, rfl, rfl, rfl, hz⟩
  · refine iff_of_true ?_ ⟨trivial, trivial⟩
    rw [toRat?, Int.cast_sub, Int.cast_natCast]
  · have hdiff : signedUnits negative magnitude + -(amount : Int) * unitsPerOne =
        signedUnits negative magnitude - (amount : Int) * unitsPerOne := by ring
    have hvalue : unitsValue (signedUnits negative magnitude) - amount =
        unitsValue (signedUnits negative magnitude - (amount : Int) * unitsPerOne) := by
      rw [← hdiff, unitsValue_add, unitsValue_mul_unitsPerOne]
      push_cast
      ring
    rw [hvalue, canBecome_double_iff, hdiff]
    constructor
    · intro hexact
      refine ⟨?_, z, hexact⟩
      have hsignificant := isSignificant_of_exact_sub (isSignificant_signedUnits _ _)
        (amountUnits_nonneg amount) (amountUnits_le hle) (hz.units_of_toRat? hexact)
      rw [CanTake, ← unitsValue_mul_unitsPerOne, isDouble_unitsValue_iff]
      -- the amount lies below the limit because the balance does
      have hlt := magnitude.lt_limit
      rw [← natAbs_signedUnits negative magnitude] at hlt
      have hunits := amountUnits_le hle
      have hnonneg := amountUnits_nonneg amount
      exact ⟨hsignificant, by omega⟩
    · rintro ⟨htake, hbecome⟩
      rw [nearestUnits_of_isDouble htake] at hz
      exact hz.toRat?_eq_total_iff.mpr hbecome

/-! ## Overflow -/

/-- The balance is a double whose sum with the rounded amount reaches the overflow point. -/
def Overflows (x : Number) (n : Int) : Prop :=
  ∃ value rounded p r, x = .double value ∧ ofInt? n = some rounded ∧
    value.toRat? = some p ∧ rounded.toRat? = some r ∧ (overflowFrom : ℚ) ≤ p + r

theorem overflows_double_iff {negative : Bool} {magnitude : Magnitude} {rounded : Binary64}
    (hn : ofInt? n = some rounded) :
    (Number.double (.finite negative magnitude)).Overflows n ↔
      (overflowFrom : Int) * unitsPerOne ≤
        signedUnits negative magnitude + nearestUnits (n * unitsPerOne) := by
  obtain ⟨t, b, rfl, hb⟩ := rounded_ofInt? hn
  have hpoint : (overflowFrom : ℚ) ≤ unitsValue (signedUnits negative magnitude) +
      unitsValue (signedUnits t b) ↔ (overflowFrom : Int) * unitsPerOne ≤
        signedUnits negative magnitude + nearestUnits (n * unitsPerOne) := by
    rw [← unitsValue_add, hb, ← unitsValue_le_iff, unitsValue_mul_unitsPerOne, Int.cast_natCast]
  rw [← hpoint]
  constructor
  · rintro ⟨value, rounded, p, r, heq, hround, hp, hr, hle⟩
    cases heq
    rw [hn] at hround
    cases hround
    cases hp
    cases hr
    exact hle
  · intro hle
    exact ⟨_, _, _, _, rfl, hn, toRat?_finite _ _, toRat?_finite _ _, hle⟩

/-- A balance that an amount is added to stays finite unless it overflows. -/
theorem plus?_isFinite_iff (hx : x.toRat? = some q) (h : x.plus? amount = some y) :
    y.isFinite = true ↔ ¬ x.Overflows amount := by
  rcases plus?_cases hx h with ⟨value, rfl, rfl, rfl⟩ | ⟨negative, magnitude, z, rfl, rfl, rfl, hz⟩
  · refine iff_of_true rfl ?_
    rintro ⟨_, _, _, _, ⟨⟩, _⟩
  · rw [plus?, Option.map_eq_some_iff] at h
    obtain ⟨rounded, hn, _⟩ := h
    have hnonneg := nearestUnits_nonneg (amountUnits_nonneg amount)
    have hlt := signedUnits_lt_overflow negative magnitude
    have hfinite : (Number.double z).isFinite = true ↔ _ := hz.isFinite_iff
    rw [hfinite, overflows_double_iff hn]
    -- the sum is no smaller than a finite number, so only its upper end matters
    omega

end Number

end Remittance
