import Remittance.Proofs.Field
import Remittance.Proofs.MovedBalance
import Remittance.Proofs.WrittenNumber

/-!
# Amounts in a sentence

An amount is a row of decimal digits whose number is positive and no larger than the largest
double-precision number (`Binary64.isGreatest_largest`). What is refused tells its customer
one of six things, and the first character that is no digit counts before the length, and the
length before the number (`readAmount_reads`).
-/

namespace Remittance

namespace Binary64

theorem largest_eq : largest = 2 ^ 1024 - 2 ^ 971 := by
  decide +kernel

/-- Below fifty-three bits and a power of two, the greatest count of so many bits has all of
them set. -/
theorem IsSignificant.le_of_lt {units exponent : Nat} (h : IsSignificant units)
    (hlt : units < significandLimit * Nat.pow 2 exponent) :
    units ≤ (significandLimit - 1) * Nat.pow 2 exponent := by
  obtain ⟨significand, e, hsignificand, rfl⟩ := h
  rcases Nat.le_total e exponent with hle | hle
  · exact Nat.mul_le_mul (Nat.le_sub_one_of_lt hsignificand)
      (Nat.pow_le_pow_right Nat.two_pos hle)
  · -- the significand takes up the rest of the exponent and still has fifty-three bits
    obtain ⟨rest, rfl⟩ := Nat.exists_eq_add_of_le' hle
    rw [← pow_mul_pow, ← Nat.mul_assoc] at hlt ⊢
    exact Nat.mul_le_mul_right _ (Nat.le_sub_one_of_lt (Nat.lt_of_mul_lt_mul_right hlt))

theorem units_le_largest (magnitude : Magnitude) :
    magnitude.units ≤ largest * unitsPerOne := by
  have hlt := magnitude.lt_limit
  rw [← significandLimit_mul_pow] at hlt
  rw [largest_mul_unitsPerOne]
  generalize 971 + 1074 = exponent at hlt ⊢
  exact magnitude.significant.le_of_lt hlt

theorem isGreatest_largest : IsGreatest {q | IsDouble q} (largest : ℚ) := by
  rw [← Int.cast_natCast, ← unitsValue_mul_unitsPerOne]
  constructor
  · exact isDouble_unitsValue_iff.mpr ⟨isSignificant_largest, largest_lt_limit⟩
  · rintro q ⟨x, hx⟩
    cases x with
    | finite negative magnitude =>
        obtain rfl := Option.some.inj hx
        have hunits := natAbs_signedUnits negative magnitude
        have hle := units_le_largest magnitude
        refine unitsValue_le_iff.mpr ?_
        omega
    | infinite negative => cases hx
    | nan => cases hx

end Binary64

namespace Instruction

open Binary64

/-! ## The digits of a text -/

def IsDigits (t : String) : Prop :=
  ∀ c ∈ t.toList, '0' ≤ c ∧ c ≤ '9'

/-- The number that a row of digits denotes to base ten. -/
def decimal (t : String) : Nat :=
  Nat.ofDigitChars 10 t.toList 0

/-- The character is the first one of the text that is no digit. -/
def FirstOther (t : String) (c : Char) : Prop :=
  ¬ ('0' ≤ c ∧ c ≤ '9') ∧ ∃ p s, t.toList = p ++ c :: s ∧ ∀ d ∈ p, '0' ≤ d ∧ d ≤ '9'

theorem isDigits_iff {t : String} : IsDigits t ↔ ∀ c ∈ t.toList, c.isDigit = true := by
  simp only [IsDigits, Date.isDigit_iff]

theorem find?_eq_some_iff_firstOther {t : String} {c : Char} :
    t.toList.find? (!·.isDigit) = some c ↔ FirstOther t c := by
  rw [List.find?_eq_some_iff_append, FirstOther, ← Date.isDigit_iff, Bool.not_eq_true',
    Bool.not_eq_true]
  simp only [Bool.not_not, Date.isDigit_iff]

theorem readAmount_eq_ok_iff_isDigits {t : String} {n : Nat} :
    readAmount (some t) = .ok n ↔
      t ≠ "" ∧ IsDigits t ∧ t.length ≤ 4300 ∧ decimal t = n ∧ 1 ≤ n ∧ n ≤ largest := by
  rw [readAmount_eq_ok_iff, isDigits_iff]
  constructor
  · rintro ⟨_, hsome, hamount⟩
    obtain rfl := Option.some.inj hsome
    exact hamount
  · intro hamount
    exact ⟨t, rfl, hamount⟩

/-! ## What is wrong with the digits -/

theorem digitsFault?_of_ne_empty {t : String} (hne : t ≠ "") :
    digitsFault? (some t) = (t.toList.find? (!·.isDigit)).map DigitsFault.ofChar := by
  rw [digitsFault?, Option.getD_some]
  cases ht : t.toList with
  | nil => exact absurd (String.toList_inj.mp ht) hne
  | cons c cs => rfl

theorem digitsFault?_eq_none_iff_isDigits {t : String} :
    digitsFault? (some t) = none ↔ t ≠ "" ∧ IsDigits t := by
  rw [digitsFault?_eq_none_iff, isDigits_iff]
  simp

theorem ofChar_injective {c d : Char} (h : DigitsFault.ofChar c = DigitsFault.ofChar d) :
    c = d := by
  unfold DigitsFault.ofChar at h
  split_ifs at h <;> simp_all

theorem digitsFault?_eq_ofChar_iff {t : String} {c : Char} :
    digitsFault? (some t) = some (.ofChar c) ↔ FirstOther t c := by
  by_cases hempty : t = ""
  · subst hempty
    refine iff_of_false ?_ ?_
    · unfold DigitsFault.ofChar
      split_ifs <;> exact nofun
    · rintro ⟨_, p, s, ht, _⟩
      simp at ht
  · rw [digitsFault?_of_ne_empty hempty, Option.map_eq_some_iff, ← find?_eq_some_iff_firstOther]
    constructor
    · rintro ⟨d, hd, hchar⟩
      rwa [← ofChar_injective hchar]
    · intro hc
      exact ⟨c, hc, rfl⟩

example : digitsFault? (some "12.5-") = some .point := by decide

theorem digitsFault?_eq_empty_iff {t : String} :
    digitsFault? (some t) = some .empty ↔ t = "" := by
  constructor
  · intro h
    by_contra hne
    rw [digitsFault?_of_ne_empty hne, Option.map_eq_some_iff] at h
    obtain ⟨c, _, hchar⟩ := h
    unfold DigitsFault.ofChar at hchar
    split_ifs at hchar
  · rintro rfl
    rfl

/-! ## The reasons apart -/

/-- What is told of an amount behind the words that all reasons share. -/
def AmountFault.detail : AmountFault → String
  | .digits fault => ": " ++ fault.message
  | .tooLong => ": Amount is too large"
  | .outOfRange => ""

theorem message_amount (fault : AmountFault) :
    (Fault.amount fault).message = Fault.amountLead ++ fault.detail := by
  cases fault with
  | digits fault => exact String.append_assoc
  | tooLong => rfl
  | outOfRange => exact String.append_empty.symm

/-- The faults of an amount that quote no character. -/
def AmountFault.fixed : List AmountFault :=
  [.digits .empty, .digits .minus, .digits .point, .tooLong, .outOfRange]

theorem AmountFault.fixed_or_character (fault : AmountFault) :
    fault ∈ fixed ∨ ∃ c, fault = .digits (.character c) := by
  cases fault with
  | digits fault =>
      cases fault with
      | character c => exact Or.inr ⟨c, rfl⟩
      | empty => exact Or.inl (by decide)
      | minus => exact Or.inl (by decide)
      | point => exact Or.inl (by decide)
  | tooLong => exact Or.inl (by decide)
  | outOfRange => exact Or.inl (by decide)

theorem AmountFault.detail_character (c : Char) :
    (AmountFault.digits (.character c)).detail =
      ": Invalid character '" ++ (c.toString ++ "' in amount") := by
  have hlead : (": Invalid character '" : String) = ": " ++ "Invalid character '" := by decide
  change ": " ++ ("Invalid character '" ++ c.toString ++ "' in amount") = _
  rw [hlead, String.append_assoc, String.append_assoc]

theorem AmountFault.detail_ne_character {fault : AmountFault} (h : fault ∈ fixed) (c : Char) :
    fault.detail ≠ (AmountFault.digits (.character c)).detail := by
  -- the words that quote a character are the only ones with this initial
  have hfixed : ∀ fault ∈ fixed, fault.detail.toList[2]? ≠ some 'I' := by decide
  intro heq
  apply hfixed fault h
  rw [heq, detail_character, String.toList_append, List.getElem?_append_left (by decide)]
  decide

theorem AmountFault.detail_injective {a b : AmountFault} (h : a.detail = b.detail) : a = b := by
  rcases a.fixed_or_character with ha | ⟨c, rfl⟩
  · rcases b.fixed_or_character with hb | ⟨d, rfl⟩
    · have hfixed : ∀ a ∈ fixed, ∀ b ∈ fixed, a.detail = b.detail → a = b := by decide
      exact hfixed a ha b hb h
    · exact absurd h (detail_ne_character ha d)
  · rcases b.fixed_or_character with hb | ⟨d, rfl⟩
    · exact absurd h.symm (detail_ne_character hb c)
    · rw [detail_character, detail_character, String.append_right_inj, String.append_left_inj,
        Char.toString_eq_singleton, Char.toString_eq_singleton, String.singleton_inj] at h
      rw [h]

/-- The reason tells which fault it is. -/
theorem failsWith_amount_iff {token : Option String} {fault : AmountFault} :
    FailsWith (readAmount token) .invalidAmount (Fault.amount fault).message ↔
      readAmount token = .error (.amount fault) := by
  constructor
  · rintro ⟨other, hread, _, hmessage⟩
    obtain ⟨other, rfl⟩ := readAmount_error hread
    rw [message_amount, message_amount, String.append_right_inj] at hmessage
    rw [hread, AmountFault.detail_injective hmessage]
  · intro hread
    exact ⟨_, hread, rfl, rfl⟩

/-! ## The reader -/

section

variable {t : String}

theorem readAmount_of_fault {fault : DigitsFault} (h : digitsFault? (some t) = some fault) :
    readAmount (some t) = .error (.amount (.digits fault)) := by
  unfold readAmount
  rw [h]

theorem readAmount_of_long (hne : t ≠ "") (hdigits : IsDigits t) (hlong : 4300 < t.length) :
    readAmount (some t) = .error (.amount .tooLong) := by
  unfold readAmount
  rw [digitsFault?_eq_none_iff_isDigits.mpr ⟨hne, hdigits⟩]
  exact if_pos (by rwa [Option.getD_some, String.length_toList])

theorem readAmount_of_short (hne : t ≠ "") (hdigits : IsDigits t) (hshort : t.length ≤ 4300) :
    readAmount (some t) =
      if decimal t = 0 ∨ largest < decimal t then .error (.amount .outOfRange)
      else .ok (decimal t) := by
  unfold readAmount
  rw [digitsFault?_eq_none_iff_isDigits.mpr ⟨hne, hdigits⟩]
  exact if_neg (by rwa [Option.getD_some, String.length_toList, not_lt])

/-- All that the reader can do with a text. -/
theorem readAmount_cases (t : String) :
    (∃ fault, digitsFault? (some t) = some fault ∧
      readAmount (some t) = .error (.amount (.digits fault))) ∨
    t ≠ "" ∧ IsDigits t ∧ 4300 < t.length ∧ readAmount (some t) = .error (.amount .tooLong) ∨
    t ≠ "" ∧ IsDigits t ∧ t.length ≤ 4300 ∧ (decimal t = 0 ∨ largest < decimal t) ∧
      readAmount (some t) = .error (.amount .outOfRange) ∨
    ∃ n, readAmount (some t) = .ok n := by
  cases hfault : digitsFault? (some t) with
  | some fault => exact Or.inl ⟨fault, rfl, readAmount_of_fault hfault⟩
  | none =>
      right
      obtain ⟨hne, hdigits⟩ := digitsFault?_eq_none_iff_isDigits.mp hfault
      rcases Nat.lt_or_ge 4300 t.length with hlong | hshort
      · exact Or.inl ⟨hne, hdigits, hlong, readAmount_of_long hne hdigits hlong⟩
      · right
        have hread := readAmount_of_short hne hdigits hshort
        split_ifs at hread with hrange
        · exact Or.inl ⟨hne, hdigits, hshort, hrange, hread⟩
        · exact Or.inr ⟨_, hread⟩

theorem readAmount_eq_digits_iff {fault : DigitsFault} :
    readAmount (some t) = .error (.amount (.digits fault)) ↔
      digitsFault? (some t) = some fault := by
  constructor
  · intro h
    rcases readAmount_cases t with
      ⟨other, hother, hread⟩ | ⟨_, _, _, hread⟩ | ⟨_, _, _, _, hread⟩ | ⟨n, hread⟩
    · cases hread.symm.trans h
      exact hother
    · cases hread.symm.trans h
    · cases hread.symm.trans h
    · cases hread.symm.trans h
  · exact readAmount_of_fault

theorem readAmount_eq_tooLong_iff :
    readAmount (some t) = .error (.amount .tooLong) ↔ IsDigits t ∧ 4300 < t.length := by
  constructor
  · intro h
    rcases readAmount_cases t with
      ⟨_, _, hread⟩ | ⟨_, hdigits, hlong, _⟩ | ⟨_, _, _, _, hread⟩ | ⟨n, hread⟩
    · cases hread.symm.trans h
    · exact ⟨hdigits, hlong⟩
    · cases hread.symm.trans h
    · cases hread.symm.trans h
  · rintro ⟨hdigits, hlong⟩
    refine readAmount_of_long ?_ hdigits hlong
    rintro rfl
    cases hlong

theorem readAmount_eq_outOfRange_iff :
    readAmount (some t) = .error (.amount .outOfRange) ↔
      t ≠ "" ∧ IsDigits t ∧ t.length ≤ 4300 ∧ (decimal t = 0 ∨ largest < decimal t) := by
  constructor
  · intro h
    rcases readAmount_cases t with
      ⟨_, _, hread⟩ | ⟨_, _, _, hread⟩ | ⟨hne, hdigits, hshort, hrange, _⟩ | ⟨n, hread⟩
    · cases hread.symm.trans h
    · cases hread.symm.trans h
    · exact ⟨hne, hdigits, hshort, hrange⟩
    · cases hread.symm.trans h
  · rintro ⟨hne, hdigits, hshort, hrange⟩
    rw [readAmount_of_short hne hdigits hshort, if_pos hrange]

/-! ## Zeros in front -/

theorem digitsFault?_zeros_append (zeros : Nat) (hne : t ≠ "") :
    digitsFault? (some (String.ofList (List.replicate zeros '0') ++ t)) =
      digitsFault? (some t) := by
  have hzeros : ∀ c ∈ List.replicate zeros '0', ¬ (!c.isDigit) = true := by
    intro c hc
    rw [List.eq_of_mem_replicate hc]
    decide
  have happend : String.ofList (List.replicate zeros '0') ++ t ≠ "" := by
    intro h
    exact hne (String.append_eq_empty_iff.mp h).2
  rw [digitsFault?_of_ne_empty happend, digitsFault?_of_ne_empty hne, String.toList_append,
    String.toList_ofList, List.find?_append, List.find?_eq_none.mpr hzeros, Option.none_or]

/-- Zeros in front change nothing, as long as the whole keeps to the limit of length. -/
theorem readAmount_zeros_append (zeros : Nat) (hne : t ≠ "") (hlen : zeros + t.length ≤ 4300) :
    readAmount (some (String.ofList (List.replicate zeros '0') ++ t)) = readAmount (some t) := by
  have hfault := digitsFault?_zeros_append zeros hne
  cases hdigits : digitsFault? (some t) with
  | some fault =>
      rw [readAmount_of_fault hdigits, readAmount_of_fault (hfault.trans hdigits)]
  | none =>
      obtain ⟨_, ht⟩ := digitsFault?_eq_none_iff_isDigits.mp hdigits
      obtain ⟨hne', ht'⟩ := digitsFault?_eq_none_iff_isDigits.mp (hfault.trans hdigits)
      have hlen' : (String.ofList (List.replicate zeros '0') ++ t).length ≤ 4300 := by
        rwa [String.length_append, String.length_ofList, List.length_replicate]
      have hvalue : decimal (String.ofList (List.replicate zeros '0') ++ t) = decimal t := by
        rw [decimal, decimal, String.toList_append, String.toList_ofList,
          Numeral.ofDigitChars_zeros_append]
      rw [readAmount_of_short hne' ht' hlen', readAmount_of_short hne ht (by omega), hvalue]

end

/-- A fault of the digits is told by its own words, behind those of all amounts. -/
theorem failsWith_digits_iff {t : String} {fault : DigitsFault} :
    FailsWith (readAmount (some t)) .invalidAmount
      (Fault.amountLead ++ ": " ++ fault.message) ↔ digitsFault? (some t) = some fault :=
  (@failsWith_amount_iff (some t) (.digits fault)).trans readAmount_eq_digits_iff

/-- The reader of amounts reads the positive numbers up to the largest double, written in at
most 4300 digits, and keeps their order. Every other text is refused under one code. The reason
is the first character that is no digit, whatever follows it, or that there is none to read; of
a row of digits, that it is too long or else that its number is out of bounds. -/
theorem readAmount_reads (t : String) :
    (∀ n, readAmount (some t) = .ok n ↔
      t ≠ "" ∧ IsDigits t ∧ t.length ≤ 4300 ∧ decimal t = n ∧
        1 ≤ n ∧ n ≤ 2 ^ 1024 - 2 ^ 971) ∧
    IsGreatest {q : ℚ | IsDouble q} ((2 ^ 1024 - 2 ^ 971 : Nat) : ℚ) ∧
    (∀ zeros, t ≠ "" → zeros + t.length ≤ 4300 →
      readAmount (some (String.ofList (List.replicate zeros '0') ++ t)) = readAmount (some t)) ∧
    (∀ t' n n', readAmount (some t) = .ok n → readAmount (some t') = .ok n' →
      (n < n' ↔ decimal t < decimal t')) ∧
    (∀ fault, readAmount (some t) = .error fault → fault.code = .invalidAmount) ∧
    (FailsWith (readAmount (some t)) .invalidAmount
      (Fault.amountLead ++ ": " ++ "Amount must not be empty") ↔ t = "") ∧
    (FailsWith (readAmount (some t)) .invalidAmount
      (Fault.amountLead ++ ": " ++ "Amount cannot contain negative sign") ↔ FirstOther t '-') ∧
    (FailsWith (readAmount (some t)) .invalidAmount
      (Fault.amountLead ++ ": " ++ "Amount cannot contain decimal point") ↔ FirstOther t '.') ∧
    (∀ c, c ≠ '-' → c ≠ '.' →
      (FailsWith (readAmount (some t)) .invalidAmount
        (Fault.amountLead ++ ": " ++ ("Invalid character '" ++ c.toString ++ "' in amount")) ↔
          FirstOther t c)) ∧
    (FailsWith (readAmount (some t)) .invalidAmount
      (Fault.amountLead ++ ": Amount is too large") ↔ IsDigits t ∧ 4300 < t.length) ∧
    (FailsWith (readAmount (some t)) .invalidAmount Fault.amountLead ↔
      t ≠ "" ∧ IsDigits t ∧ t.length ≤ 4300 ∧
        (decimal t = 0 ∨ 2 ^ 1024 - 2 ^ 971 < decimal t)) := by
  rw [← largest_eq]
  refine ⟨fun n => readAmount_eq_ok_iff_isDigits, isGreatest_largest,
    fun zeros hne hlen => readAmount_zeros_append zeros hne hlen, ?order, ?code,
    ?empty, ?minus, ?point, ?character, ?long, ?range⟩
  case order =>
    intro t' n n' hread hread'
    obtain ⟨_, _, _, rfl, _⟩ := readAmount_eq_ok_iff_isDigits.mp hread
    obtain ⟨_, _, _, rfl, _⟩ := readAmount_eq_ok_iff_isDigits.mp hread'
    rfl
  case code =>
    intro fault hread
    obtain ⟨_, rfl⟩ := readAmount_error hread
    rfl
  case empty =>
    exact (@failsWith_digits_iff t .empty).trans digitsFault?_eq_empty_iff
  case minus =>
    exact (@failsWith_digits_iff t .minus).trans (@digitsFault?_eq_ofChar_iff t '-')
  case point =>
    exact (@failsWith_digits_iff t .point).trans (@digitsFault?_eq_ofChar_iff t '.')
  case character =>
    intro c hminus hpoint
    have hchar : DigitsFault.ofChar c = .character c := by
      rw [DigitsFault.ofChar, if_neg hminus, if_neg hpoint]
    rw [← digitsFault?_eq_ofChar_iff, hchar]
    exact @failsWith_digits_iff t (.character c)
  case long =>
    exact (@failsWith_amount_iff (some t) .tooLong).trans readAmount_eq_tooLong_iff
  case range =>
    exact (@failsWith_amount_iff (some t) .outOfRange).trans readAmount_eq_outOfRange_iff

end Instruction

end Remittance
