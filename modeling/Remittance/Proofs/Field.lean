import Mathlib.Data.List.Basic
import Remittance.Instruction.Basic
import Remittance.Proofs.Table
import Remittance.Proofs.WrittenDate

/-!
# Languages of the fields

What the words and the fields of a sentence may look like, said on the tokens alone,
and that each reader accepts its language and nothing else. A reader that refuses
names a fault of its own code.
-/

namespace Remittance.Instruction

open Text

/-- The capital form of the token at a place is the given word. -/
def Stands (tokens : List String) (place : Nat) (word : String) : Prop :=
  tokens[place]?.map upper = some word

theorem getElem?_map_upper {tokens : List String} {place : Nat} {word : String} :
    (tokens.map upper)[place]? = some word ↔ Stands tokens place word := by
  rw [List.getElem?_map, Stands]

theorem kindOf?_eq_some_iff {tokens : List String} {kind : Kind} :
    kindOf? tokens = some kind ↔ Stands tokens 0 kind.word := by
  rw [kindOf?, Kind.detect?, List.head?_eq_getElem?, Option.bind_eq_some_iff]
  constructor
  · rintro ⟨word, hword, hkind⟩
    rw [Kind.ofWord?_eq_some_iff] at hkind
    subst word
    exact getElem?_map_upper.mp hword
  · intro h
    exact ⟨kind.word, getElem?_map_upper.mpr h, Kind.ofWord?_word kind⟩

/-- Reading fails with the code, and the customer is told the message. -/
def FailsWith {α : Type} (read : Except Fault α) (code : Code) (message : String) : Prop :=
  ∃ fault, read = .error fault ∧ fault.code = code ∧ fault.message = message

@[simp] theorem failsWith_ok {α : Type} {a : α} {code : Code} {message : String} :
    ¬ FailsWith (.ok a) code message := by
  rintro ⟨fault, h, _⟩
  cases h

@[simp] theorem failsWith_error_iff {α : Type} {fault : Fault} {code : Code} {message : String} :
    FailsWith (.error fault : Except Fault α) code message ↔
      fault.code = code ∧ fault.message = message := by
  constructor
  · rintro ⟨fault, h, htells⟩
    cases h
    exact htells
  · intro htells
    exact ⟨fault, rfl, htells⟩

/-! ## Keywords -/

/-- The places of the six words between the fields. -/
def phrasePlaces : List Nat := [3, 4, 6, 7, 8, 9]

def Kind.phrase : Kind → List String
  | .debit => ["FROM", "ACCOUNT", "FOR", "CREDIT", "TO", "ACCOUNT"]
  | .credit => ["TO", "ACCOUNT", "FOR", "DEBIT", "FROM", "ACCOUNT"]

/-- The six words stand in their places, in any case. -/
def HasPhrase (kind : Kind) (tokens : List String) : Prop :=
  phrasePlaces.map (fun place => tokens[place]?.map upper) = kind.phrase.map some

theorem missingKeywords_eq_nil_iff {slots : List Slot} {upperTokens : List String} :
    missingKeywords slots upperTokens = [] ↔
      ∀ slot ∈ slots, slot.index < upperTokens.length := by
  rw [missingKeywords, List.map_eq_nil_iff, List.filter_eq_nil_iff]
  simp only [decide_eq_true_eq, Nat.not_le]

theorem mismatches_eq_nil_iff {slots : List Slot} {upperTokens : List String} :
    mismatches slots upperTokens = [] ↔
      ∀ slot ∈ slots, ∀ found, upperTokens[slot.index]? = some found →
        found = slot.keyword := by
  rw [mismatches, List.filterMap_eq_nil_iff]
  refine forall₂_congr fun slot _ => ?_
  cases upperTokens[slot.index]? with
  | none => simp
  | some found =>
      by_cases h : found = slot.keyword <;> simp [h]

/-- The check passes exactly the sentences with every keyword in its place. -/
theorem checkKeywords_eq_ok_iff {slots : List Slot} {upperTokens : List String} :
    checkKeywords slots upperTokens = .ok () ↔
      ∀ slot ∈ slots, upperTokens[slot.index]? = some slot.keyword := by
  constructor
  · intro h slot hslot
    unfold checkKeywords at h
    split at h
    · rename_i hmissing
      split at h
      · rename_i hwrong
        -- the place exists, and what stands there is no other word
        have hlt := missingKeywords_eq_nil_iff.mp hmissing slot hslot
        have hget := List.getElem?_eq_getElem hlt
        have hfound := mismatches_eq_nil_iff.mp hwrong slot hslot _ hget
        rw [hget, hfound]
      · cases h
    · cases h
  · intro h
    have hmissing : missingKeywords slots upperTokens = [] := by
      rw [missingKeywords_eq_nil_iff]
      intro slot hslot
      exact (List.getElem?_eq_some_iff.mp (h slot hslot)).1
    have hwrong : mismatches slots upperTokens = [] := by
      rw [mismatches_eq_nil_iff]
      intro slot hslot found hfound
      rw [h slot hslot] at hfound
      exact (Option.some.inj hfound).symm
    rw [checkKeywords, hmissing, hwrong]

theorem checkKeywords_slots_eq_ok_iff {kind : Kind} {tokens : List String} :
    checkKeywords kind.slots (tokens.map upper) = .ok () ↔ HasPhrase kind tokens := by
  rw [checkKeywords_eq_ok_iff]
  cases kind <;>
    simp [Kind.slots, HasPhrase, phrasePlaces, Kind.phrase]

/-! ## Amounts -/

/-- The token is a row of at most 4300 digits that denote `n`, which is positive
and no larger than the largest double-precision number. -/
def IsAmount (token : String) (n : Nat) : Prop :=
  token ≠ "" ∧ (∀ c ∈ token.toList, c.isDigit = true) ∧ token.length ≤ 4300 ∧
    Nat.ofDigitChars 10 token.toList 0 = n ∧ 1 ≤ n ∧ n ≤ Binary64.largest

theorem digitsFault?_eq_none_iff {token : Option String} :
    digitsFault? token = none ↔
      ∃ t, token = some t ∧ t ≠ "" ∧ ∀ c ∈ t.toList, c.isDigit = true := by
  cases token with
  | none => simp [digitsFault?]
  | some t =>
      cases ht : t.toList with
      | nil =>
          have hempty : t = "" := by rw [← String.toList_inj, ht]; rfl
          simp [digitsFault?, hempty]
      | cons c cs =>
          have hne : t ≠ "" := by
            rintro rfl
            simp at ht
          simp [digitsFault?, ht, hne, List.find?_eq_none]

theorem readAmount_eq_ok_iff {token : Option String} {n : Nat} :
    readAmount token = .ok n ↔ ∃ t, token = some t ∧ IsAmount t n := by
  constructor
  · intro h
    unfold readAmount at h
    split at h
    · cases h
    · rename_i hdigits
      obtain ⟨t, rfl, hne, hall⟩ := digitsFault?_eq_none_iff.mp hdigits
      dsimp only [Option.getD_some] at h
      split at h
      · cases h
      · rename_i hlen
        split at h
        · cases h
        · rename_i hrange
          cases h
          rw [not_or] at hrange
          rw [Numeral.maxDigits, String.length_toList] at hlen
          exact ⟨t, rfl, hne, hall, by omega, rfl, by omega, by omega⟩
  · rintro ⟨t, rfl, hne, hall, hlen, rfl, hpos, hle⟩
    have hdigits : digitsFault? (some t) = none :=
      digitsFault?_eq_none_iff.mpr ⟨t, rfl, hne, hall⟩
    unfold readAmount
    rw [hdigits]
    dsimp only [Option.getD_some]
    rw [if_neg (by rw [Numeral.maxDigits, String.length_toList]; omega), if_neg (by omega)]

theorem readAmount_error {token : Option String} {fault : Fault}
    (h : readAmount token = .error fault) : ∃ f, fault = .amount f := by
  unfold readAmount at h
  split at h
  · cases h
    exact ⟨_, rfl⟩
  · dsimp only at h
    split at h
    · cases h
      exact ⟨_, rfl⟩
    · split at h
      · cases h
        exact ⟨_, rfl⟩
      · cases h

/-! ## Currencies -/

theorem readCurrency_eq_ok_iff {tokens : List String} {place : Nat} {currency : Currency} :
    readCurrency tokens[place]? = .ok currency ↔ Stands tokens place currency.code := by
  have hread : readCurrency tokens[place]? = .ok currency ↔
      Currency.read? tokens[place]? = some currency := by
    unfold readCurrency
    split
    · rename_i c hc
      simp [hc]
    · rename_i hnone
      simp [hnone]
  rw [hread, Currency.read?, Currency.ofCode?_eq_some_iff, Currency.normalise, Stands]
  cases tokens[place]? with
  | none =>
      -- no currency has the empty text as its code
      have hne : upper "" ≠ currency.code := by cases currency <;> decide
      simpa using hne
  | some token => simp

theorem readCurrency_error {token : Option String} {fault : Fault}
    (h : readCurrency token = .error fault) :
    fault = .currency (Currency.normalise token) := by
  unfold readCurrency at h
  split at h
  · cases h
  · cases h
    rfl

/-! ## Account ids -/

/-- The characters of an account id: digits, letters, the hyphen, the point and the
at sign. -/
def IdChar (c : Char) : Prop :=
  '0' ≤ c ∧ c ≤ '9' ∨ 'A' ≤ c ∧ c ≤ 'Z' ∨ 'a' ≤ c ∧ c ≤ 'z' ∨ c = '-' ∨ c = '.' ∨ c = '@'

/-- A text of one or more such characters. -/
def IsId (id : String) : Prop :=
  id ≠ "" ∧ ∀ c ∈ id.toList, IdChar c

theorem isIdChar_iff {c : Char} : isIdChar c = true ↔ IdChar c := by
  simp only [isIdChar, IdChar, Char.isDigit, Char.isUpper, Char.isLower, Bool.or_eq_true,
    Bool.and_eq_true, decide_eq_true_eq, beq_iff_eq, Char.le_def, or_assoc, ge_iff_le]

theorem idFault?_eq_none_iff {token : Option String} :
    idFault? token = none ↔ ∃ id, token = some id ∧ IsId id := by
  cases token with
  | none => simp [idFault?]
  | some id =>
      cases hid : id.toList with
      | nil =>
          have hempty : id = "" := by rw [← String.toList_inj, hid]; rfl
          simp [idFault?, IsId, hempty]
      | cons c cs =>
          have hne : id ≠ "" := by
            rintro rfl
            simp at hid
          simp [idFault?, IsId, hid, hne, List.find?_eq_none, isIdChar_iff]

theorem readId_eq_ok_iff {side : Side} {token : Option String} {id : String} :
    readId side token = .ok id ↔ token = some id ∧ IsId id := by
  unfold readId
  split
  · rename_i fault hfault
    constructor
    · intro h
      cases h
    · rintro ⟨htoken, hid⟩
      have hnone := idFault?_eq_none_iff.mpr ⟨id, htoken, hid⟩
      rw [hnone] at hfault
      cases hfault
  · rename_i hnone
    obtain ⟨t, rfl, ht⟩ := idFault?_eq_none_iff.mp hnone
    constructor
    · intro h
      cases h
      exact ⟨rfl, ht⟩
    · rintro ⟨htoken, _⟩
      cases htoken
      rfl

theorem readId_error {side : Side} {token : Option String} {fault : Fault}
    (h : readId side token = .error fault) : ∃ f, fault = .account side f := by
  unfold readId at h
  split at h
  · cases h
    exact ⟨_, rfl⟩
  · cases h

/-! ## Dates -/

/-- The token is there and has the outer shape of a date. -/
def LooksDated (token : Option String) : Prop :=
  ∃ t, token = some t ∧ t.length = 10 ∧ t.toList[4]? = some '-' ∧ t.toList[7]? = some '-'

theorem looksLikeDate_iff {token : Option String} :
    looksLikeDate token = true ↔ LooksDated token := by
  cases token with
  | none => simp [looksLikeDate, LooksDated]
  | some t =>
      simp [looksLikeDate, LooksDated, Date.isShaped, and_assoc, String.length_toList]

theorem count_ofTokens (kind : Kind) (tokens : List String) :
    (Fields.ofTokens kind tokens).count = tokens.length := rfl

theorem date_ofTokens (kind : Kind) (tokens : List String) :
    (Fields.ofTokens kind tokens).date = tokens[12]? := rfl

theorem on_ofTokens (kind : Kind) (tokens : List String) :
    (Fields.ofTokens kind tokens).on = tokens[11]? := rfl

theorem hasOn_ofTokens_iff {kind : Kind} {tokens : List String} :
    (Fields.ofTokens kind tokens).hasOn = true ↔ Stands tokens 11 "ON" := by
  rw [Fields.hasOn, on_ofTokens, Stands]
  cases tokens[11]? with
  | none => simp
  | some token => simp

section Dates

variable {kind : Kind} {tokens : List String}

theorem readDate_short (h : tokens.length < 12) :
    readDate (Fields.ofTokens kind tokens) = .ok none := by
  rw [readDate, count_ofTokens, dateIndex, if_pos h]

theorem readDate_unannounced (hlong : 12 ≤ tokens.length) (hon : ¬ Stands tokens 11 "ON") :
    readDate (Fields.ofTokens kind tokens) =
      if looksLikeDate tokens[12]? || looksLikeDate tokens[11]? then .error .dateWithoutOn
      else .error .missingOn := by
  have hword : ¬ (Fields.ofTokens kind tokens).hasOn = true :=
    fun h => hon (hasOn_ofTokens_iff.mp h)
  rw [readDate, count_ofTokens, dateIndex, if_neg (by omega), if_neg hword, date_ofTokens,
    on_ofTokens]

theorem readDate_announced_none (hlong : 12 ≤ tokens.length) (hon : Stands tokens 11 "ON")
    (htoken : tokens[12]? = none) :
    readDate (Fields.ofTokens kind tokens) = .error .onWithoutDate := by
  have hword : (Fields.ofTokens kind tokens).hasOn = true := hasOn_ofTokens_iff.mpr hon
  rw [readDate, count_ofTokens, dateIndex, if_neg (by omega), if_pos hword, date_ofTokens, htoken]

theorem readDate_announced_some {token : String} (hlong : 12 ≤ tokens.length)
    (hon : Stands tokens 11 "ON") (htoken : tokens[12]? = some token) :
    readDate (Fields.ofTokens kind tokens) =
      ((Date.ofText token).map some).mapError Fault.date := by
  have hword : (Fields.ofTokens kind tokens).hasOn = true := hasOn_ofTokens_iff.mpr hon
  rw [readDate, count_ofTokens, dateIndex, if_neg (by omega), if_pos hword, date_ofTokens, htoken]
  dsimp only
  cases Date.ofText token <;> rfl

/-- A sentence of fewer than twelve tokens has no date; a longer one must announce
it and give it in its written form. -/
theorem readDate_eq_ok_iff {date : Option Date} :
    readDate (Fields.ofTokens kind tokens) = .ok date ↔
      tokens.length < 12 ∧ date = none ∨
      12 ≤ tokens.length ∧ Stands tokens 11 "ON" ∧
        ∃ d, date = some d ∧ tokens[12]? = some d.text := by
  rcases Nat.lt_or_ge tokens.length 12 with hshort | hlong
  · rw [readDate_short hshort]
    constructor
    · rintro ⟨⟩
      exact Or.inl ⟨hshort, rfl⟩
    · rintro (⟨_, rfl⟩ | ⟨hlong, _⟩)
      · rfl
      · omega
  by_cases hon : Stands tokens 11 "ON"
  · cases htoken : tokens[12]? with
    | none =>
        rw [readDate_announced_none hlong hon htoken]
        constructor
        · rintro ⟨⟩
        · rintro (⟨hshort, _⟩ | ⟨_, _, d, _, hd⟩)
          · omega
          · cases hd
    | some token =>
        rw [readDate_announced_some hlong hon htoken]
        constructor
        · intro h
          cases hread : Date.ofText token with
          | ok d =>
              rw [hread] at h
              cases h
              exact Or.inr ⟨hlong, hon, d, rfl, congrArg some (Date.ofText_eq_ok_iff.mp hread)⟩
          | error fault =>
              rw [hread] at h
              cases h
        · rintro (⟨hshort, _⟩ | ⟨_, _, d, rfl, hd⟩)
          · omega
          · rw [Date.ofText_eq_ok_iff.mpr (Option.some.inj hd)]
            rfl
  · rw [readDate_unannounced hlong hon]
    constructor
    · intro h
      split at h <;> cases h
    · rintro (⟨hshort, _⟩ | ⟨_, hannounced, _⟩)
      · omega
      · exact absurd hannounced hon

end Dates

end Remittance.Instruction
