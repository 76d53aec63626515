import Remittance.Proofs.Transfer
import Remittance.Proofs.WrittenNumber

/-!
# Amounts for a reader

An amount that is equal to an integer shows as the plain notation of that integer
(`PlainNotation`), whatever its kind and size. Any other is a double and shows as a text that
reads back as it (`ofText?_text`). The two forms never meet, because the one is scanned as an
integer and the other is not (`wholeText_ne_text`); so amounts show alike exactly when they are
equal as numbers (`amountText_exact`).
-/

namespace Remittance

namespace Numeral

/-- The plain notation of an integer: a minus sign for a negative one and for no other, and the
decimal digits of its absolute value, with no zero in front of others. -/
def PlainNotation (text : String) (n : Int) : Prop :=
  ∃ digits, text.toList = (if n < 0 then '-' :: digits else digits) ∧ WholePart digits ∧
    Nat.ofDigitChars 10 digits 0 = n.natAbs

theorem plainNotation_wholeText (n : Int) : PlainNotation (wholeText n) n := by
  refine ⟨Nat.toDigits 10 n.natAbs, ?_, wholePart_toDigits _, Nat.ofDigitChars_ten_toDigits⟩
  rw [wholeText, String.toList_ofList]
  cases n with
  | ofNat k => exact (if_neg (Int.not_lt.mpr (Int.natCast_nonneg k))).symm
  | negSucc k => exact (if_pos (Int.negSucc_lt_zero k)).symm

/-- A plain notation is scanned as its integer, to the end and as no double. -/
theorem scan_wholeText (n : Int) : ∃ numeral : Numeral,
    scan (wholeText n).toList = some (numeral, []) ∧ numeral.isWhole = true ∧
      numeral.toInt = n := by
  obtain ⟨numeral, hscan, hwhole, hvalue, _⟩ := scan_wholeChars n ends_nil
  rw [List.append_nil] at hscan
  exact ⟨numeral, by rw [wholeText, String.toList_ofList, hscan], hwhole, hvalue⟩

theorem wholeText_injective {m n : Int} (h : wholeText m = wholeText n) : m = n := by
  obtain ⟨numeral, hscan, _, hm⟩ := scan_wholeText m
  obtain ⟨numeral', hscan', _, hn⟩ := scan_wholeText n
  rw [h, hscan'] at hscan
  cases hscan
  rw [← hm, hn]

/-- A finite double is scanned back from its text, and as no integer. -/
theorem scan_text {x : Binary64} (hx : x.isFinite = true) : ∃ numeral : Numeral,
    scan x.text.toList = some (numeral, []) ∧ numeral.isWhole = false ∧
      numeral.toBinary64 = x := by
  cases x with
  | finite negative m =>
      obtain ⟨numeral, hscan, hwhole, hvalue⟩ := scan_toChars negative m ends_nil
      rw [List.append_nil] at hscan
      exact ⟨numeral, by rw [Binary64.text, String.toList_ofList, hscan], hwhole, hvalue⟩
  | infinite _ => cases hx
  | nan => cases hx

theorem wholeText_ne_text (n : Int) {x : Binary64} (hx : x.isFinite = true) :
    wholeText n ≠ x.text := by
  intro h
  obtain ⟨numeral, hscan, hwhole, _⟩ := scan_wholeText n
  obtain ⟨numeral', hscan', hwhole', _⟩ := scan_text hx
  rw [h, hscan'] at hscan
  cases hscan
  rw [hwhole] at hwhole'
  cases hwhole'

end Numeral

open Numeral

namespace Binary64

/-- The text of a finite double reads back as the double. -/
theorem ofText?_text {x : Binary64} (hx : x.isFinite = true) : ofText? x.text = some x := by
  obtain ⟨numeral, hscan, _, hvalue⟩ := scan_text hx
  -- no numeral starts like the names of the numbers that are not finite
  have hname : ∀ s ∈ ["inf", "-inf", "nan"], x.text ≠ s := by
    rintro s hs htext
    have hnone : ∀ s ∈ ["inf", "-inf", "nan"], (scan s.toList).isNone = true := by decide +kernel
    have hscan' := hnone s hs
    rw [← htext, hscan] at hscan'
    cases hscan'
  simp only [List.forall_mem_cons] at hname
  obtain ⟨hinf, hneg, hnan, _⟩ := hname
  rw [ofText?, if_neg hinf, if_neg hneg, if_neg hnan, hscan]
  exact congrArg some hvalue

theorem text_injective {x y : Binary64} (hx : x.isFinite = true) (hy : y.isFinite = true)
    (h : x.text = y.text) : x = y := by
  have hread := ofText?_text hx
  rw [h, ofText?_text hy] at hread
  exact (Option.some.inj hread).symm

/-! ## Doubles that are integers -/

theorem toRat?_eq_intCast_iff {negative : Bool} {m : Magnitude} {n : Int} :
    (finite negative m).toRat? = some (n : ℚ) ↔ signedUnits negative m = n * unitsPerOne := by
  rw [toRat?_finite, Option.some.injEq, ← unitsValue_mul_unitsPerOne n, unitsValue_inj]

theorem toInt?_finite_eq_some_iff {negative : Bool} {m : Magnitude} {n : Int} :
    (finite negative m).toInt? = some n ↔ signedUnits negative m = n * unitsPerOne := by
  have hpos : 0 < unitsPerOne := Nat.cast_pos.mp unitsPerOne_pos
  rw [toInt?, signedUnits]
  rcases Nat.eq_zero_or_pos (m.units % unitsPerOne) with hwhole | hpart
  · -- a count of whole ones is that of the integer, with either sign
    have hunits : m.units = m.units / unitsPerOne * unitsPerOne :=
      (Nat.div_mul_cancel (Nat.dvd_of_mod_eq_zero hwhole)).symm
    have hcast : (m.units : Int) = (m.units / unitsPerOne : Nat) * (unitsPerOne : Int) := by
      exact_mod_cast hunits
    have hone : (unitsPerOne : Int) ≠ 0 := Int.natCast_ne_zero_iff_pos.mpr hpos
    rw [if_pos hwhole, hcast]
    cases negative with
    | false => simp only [Bool.false_eq_true, if_false, Option.some_inj, mul_left_inj' hone]
    | true => simp only [if_true, ← neg_mul, Option.some_inj, mul_left_inj' hone]
  · -- and any other count is no multiple of a one
    rw [if_neg hpart.ne']
    refine iff_of_false (Option.some_ne_none n).symm fun hn => ?_
    refine hpart.ne' (Nat.mod_eq_zero_of_dvd ?_)
    refine Int.natCast_dvd_natCast.mp ?_
    cases negative with
    | false => exact ⟨n, hn.trans (mul_comm _ _)⟩
    | true => exact dvd_neg.mp ⟨n, hn.trans (mul_comm _ _)⟩

theorem toInt?_eq_some_iff {x : Binary64} {n : Int} :
    x.toInt? = some n ↔ x.toRat? = some (n : ℚ) := by
  cases x with
  | finite negative m => rw [toInt?_finite_eq_some_iff, toRat?_eq_intCast_iff]
  | infinite _ => exact iff_of_false nofun nofun
  | nan => exact iff_of_false nofun nofun

/-- A count of units other than zero has one sign and one magnitude. -/
theorem eq_of_signedUnits {s t : Bool} {a b : Magnitude} (h : signedUnits s a = signedUnits t b)
    (hne : signedUnits s a ≠ 0) : finite s a = finite t b := by
  have hunits : a.units = b.units := by
    rw [← natAbs_signedUnits s a, ← natAbs_signedUnits t b, h]
  obtain rfl := Magnitude.ext hunits
  have hsign : s = t := by
    cases s <;> cases t <;> grind [signedUnits]
  rw [hsign]

/-- Two doubles that are equal as numbers are the same, but for the sign of a zero. -/
theorem eq_of_toRat? {x y : Binary64} {q : ℚ} (hx : x.toRat? = some q) (hy : y.toRat? = some q)
    (hq : q ≠ 0) : x = y := by
  cases x with
  | finite s a =>
      cases y with
      | finite t b =>
          rw [toRat?_finite] at hx hy
          obtain rfl := Option.some.inj hx
          refine eq_of_signedUnits (unitsValue_inj.mp (Option.some.inj hy)).symm ?_
          intro hzero
          rw [hzero, unitsValue_zero] at hq
          exact hq rfl
      | infinite _ => cases hy
      | nan => cases hy
  | infinite _ => cases hx
  | nan => cases hx

end Binary64

namespace Number

variable {x y : Number}

theorem amountText_of_toRat? {n : Int} (h : x.toRat? = some (n : ℚ)) :
    x.amountText = wholeText n := by
  cases x with
  | whole value =>
      rw [Int.cast_inj.mp (Option.some.inj h)]
      rfl
  | double value => rw [amountText, Binary64.toInt?_eq_some_iff.mpr h]

theorem amountText_of_fractional {d : Binary64} (h : ∀ n : Int, d.toRat? ≠ some (n : ℚ)) :
    (Number.double d).amountText = d.text := by
  have hnone : d.toInt? = none :=
    Option.eq_none_iff_forall_ne_some.mpr fun n hn => h n (Binary64.toInt?_eq_some_iff.mp hn)
  rw [amountText, hnone]

/-- A finite number is equal to an integer, or it is a double that is equal to none. -/
theorem integral_or_fractional (x : Number) :
    (∃ n : Int, x.toRat? = some (n : ℚ)) ∨
      ∃ d, x = .double d ∧ ∀ n : Int, d.toRat? ≠ some (n : ℚ) := by
  cases x with
  | whole value => exact Or.inl ⟨value, rfl⟩
  | double d =>
      by_cases h : ∃ n : Int, d.toRat? = some (n : ℚ)
      · exact Or.inl h
      · exact Or.inr ⟨d, rfl, not_exists.mp h⟩

/-- Finite numbers show alike when they are equal, and only then. -/
theorem amountText_eq_iff (hx : x.isFinite = true) (hy : y.isFinite = true) :
    x.amountText = y.amountText ↔ x.toRat? = y.toRat? := by
  rcases integral_or_fractional x with ⟨m, hm⟩ | ⟨d, rfl, hd⟩ <;>
    rcases integral_or_fractional y with ⟨n, hn⟩ | ⟨e, rfl, he⟩
  · rw [amountText_of_toRat? hm, amountText_of_toRat? hn, hm, hn, Option.some_inj, Int.cast_inj]
    exact ⟨wholeText_injective, congrArg wholeText⟩
  · rw [amountText_of_toRat? hm, amountText_of_fractional he, hm]
    exact iff_of_false (wholeText_ne_text m hy) fun h => he m h.symm
  · rw [amountText_of_fractional hd, amountText_of_toRat? hn, hn]
    exact iff_of_false (wholeText_ne_text n hx).symm (hd n)
  · rw [amountText_of_fractional hd, amountText_of_fractional he]
    constructor
    · intro h
      rw [Binary64.text_injective hx hy h]
    · intro h
      obtain ⟨q, hq⟩ := exists_toRat?_of_isFinite hx
      have hne : q ≠ 0 := by
        rintro rfl
        exact hd 0 (hq.trans (congrArg some Int.cast_zero.symm))
      rw [Binary64.eq_of_toRat? hq (h.symm.trans hq) hne]

end Number

/-- What an amount shows says what it is. A finite number that is equal to an integer shows
as the plain notation of the integer, and a zero of either sign as `0`; a double that is
equal to no integer shows as a text that reads back as it. So two finite numbers, of
whatever kinds, show alike exactly when they are equal as numbers. -/
theorem Value.amountText_exact {x : Number} (hx : x.isFinite = true) :
    (∀ n : Int, x.toRat? = some (n : ℚ) → PlainNotation (Value.number x).amountText n) ∧
    (x.toRat? = some 0 → (Value.number x).amountText = "0") ∧
    (∀ d, x = .double d → (∀ n : Int, x.toRat? ≠ some (n : ℚ)) →
      Binary64.ofText? (Value.number x).amountText = some d) ∧
    ∀ y : Number, y.isFinite = true →
      ((Value.number x).amountText = (Value.number y).amountText ↔ x.toRat? = y.toRat?) := by
  refine ⟨?integral, ?zero, ?fractional, fun y hy => Number.amountText_eq_iff hx hy⟩
  case integral =>
    intro n hn
    rw [Value.amountText, Number.amountText_of_toRat? hn]
    exact plainNotation_wholeText n
  case zero =>
    intro hzero
    have hcast : x.toRat? = some ((0 : Int) : ℚ) := hzero.trans (congrArg some Int.cast_zero.symm)
    rw [Value.amountText, Number.amountText_of_toRat? hcast]
    rfl
  case fractional =>
    rintro d rfl hfractional
    rw [Value.amountText, Number.amountText_of_fractional hfractional]
    exact Binary64.ofText?_text hx

/-- A double past the integers that doubles hold one by one shows as the equal integer does. -/
theorem Value.amountText_exact_wideBalance :
    (Number.double wideBalance).isFinite = true ∧ (Number.whole 9007199254740994).isFinite = true ∧
    PlainNotation (Value.number (.double wideBalance)).amountText 9007199254740994 ∧
    (Value.number (.double wideBalance)).amountText =
      (Value.number (.whole 9007199254740994)).amountText := by
  have hrat : (Number.double wideBalance).toRat? = some ((9007199254740994 : Int) : ℚ) := by
    rw [toRat?_wideBalance]
    norm_num
  obtain ⟨hplain, _, _, halike⟩ := Value.amountText_exact (x := .double wideBalance) rfl
  exact ⟨rfl, rfl, hplain _ hrat, (halike (.whole 9007199254740994) rfl).mpr hrat⟩

end Remittance
