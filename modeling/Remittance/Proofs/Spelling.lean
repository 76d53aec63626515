import Remittance.Proofs.Capitals
import Remittance.Proofs.Field

/-!
# Spellings of the fixed words

The fixed words of a sentence and the codes of currencies are recognised by their capital
form. A word in which no two neighbours are a ligature (`Plain`) has one character for each
letter in all its spellings (`upperChars_eq_iff_spells`), and that character is the letter,
the small letter, the dotless `ı` for an `I` or the long `ſ` for an `S`. This is so for every
word that the readers look for (`fixedWords_spelled`).
-/

namespace Remittance

namespace Text

/-- The character stands for the letter, which is a capital. -/
def SpellsLetter (letter c : Char) : Prop :=
  c = letter ∨ c = letter.toLower ∨ (letter = 'I' ∧ c = 'ı') ∨ (letter = 'S' ∧ c = 'ſ')

instance (letter : Char) : DecidablePred (SpellsLetter letter) := fun c =>
  inferInstanceAs (Decidable (c = letter ∨ c = letter.toLower ∨ (letter = 'I' ∧ c = 'ı') ∨
    (letter = 'S' ∧ c = 'ſ')))

/-- Character by character the text stands for the letters of the word. -/
def Spells (word text : String) : Prop :=
  List.Forall₂ SpellsLetter word.toList text.toList

instance (word text : String) : Decidable (Spells word text) :=
  inferInstanceAs (Decidable (List.Forall₂ SpellsLetter word.toList text.toList))

/-- The word is made of ASCII capitals, and no two neighbours are a ligature. -/
structure Plain (word : List Char) : Prop where
  capital : ∀ c ∈ word, c.isUpper = true
  apart : word.IsChain fun a b => [a.toNat, b.toNat] ∉ Uppercase.ligatures

instance (word : List Char) : Decidable (Plain word) :=
  have := List.decidableBAll (fun c => c.isUpper = true) word
  decidable_of_iff ((∀ c ∈ word, c.isUpper = true) ∧
      word.IsChain fun a b => [a.toNat, b.toNat] ∉ Uppercase.ligatures)
    ⟨fun h => ⟨h.1, h.2⟩, fun h => ⟨h.capital, h.apart⟩⟩

theorem Plain.tail {c : Char} {word : List Char} (h : Plain (c :: word)) : Plain word where
  capital := (List.forall_mem_cons.mp h.capital).2
  apart := h.apart.tail

theorem upperChar_eq_singleton_iff {c letter : Char} (hletter : letter.isUpper = true) :
    upperChar c = [letter] ↔ SpellsLetter letter c := by
  obtain ⟨hlow, hhigh⟩ := isUpper_iff_toNat.mp hletter
  have hcodes : upperChar c = [letter] ↔ Uppercase.capitals c.toNat = [letter.toNat] := by
    rw [← map_toNat_upperChar]
    refine ⟨fun h => by rw [h]; rfl, fun h => ?_⟩
    exact List.map_injective_iff.mpr (fun _ _ => Char.toNat_inj.mp) h
  rw [hcodes, Uppercase.capitals_eq_singleton_iff hlow hhigh]
  simp only [SpellsLetter, ← Char.toNat_inj, toNat_toLower hletter]
  rfl

/-- A capital form of several characters is no part of a plain word. -/
theorem not_plain_of_upperChar {c a b : Char} {rest tail : List Char}
    (h : upperChar c = a :: b :: rest) : ¬ Plain (a :: b :: rest ++ tail) := by
  intro hplain
  have hcodes := map_toNat_upperChar c
  rw [h] at hcodes
  have hascii : ∀ m ∈ a.toNat :: b.toNat :: rest.map Char.toNat, m < 0x80 := by
    change ∀ m ∈ (a :: b :: rest).map Char.toNat, m < 0x80
    refine List.forall_mem_map.mpr fun d hd => ?_
    have hd' := isUpper_iff_toNat.mp (hplain.capital d (List.mem_append_left _ hd))
    omega
  exact (List.isChain_cons_cons.mp hplain.apart).1
    (Uppercase.ligature_of_capitals hcodes.symm hascii)

/-- A text whose capital form is a plain word has one character for each letter of it. -/
theorem upperChars_eq_iff_spells {word : List Char} (hword : Plain word) (cs : List Char) :
    upperChars cs = word ↔ List.Forall₂ SpellsLetter word cs := by
  induction cs generalizing word with
  | nil =>
      rw [List.forall₂_nil_right_iff, upperChars_nil]
      exact eq_comm
  | cons c cs ih =>
      rw [upperChars_cons]
      constructor
      · intro h
        cases hc : upperChar c with
        | nil => exact absurd hc (upperChar_ne_nil c)
        | cons a more =>
            rw [hc] at h
            subst h
            cases more with
            | nil =>
                have hletter : a.isUpper = true := hword.capital a List.mem_cons_self
                have hspells := (upperChar_eq_singleton_iff hletter).mp hc
                exact .cons hspells ((ih hword.tail).mp rfl)
            | cons b rest => exact absurd hword (not_plain_of_upperChar hc)
      · intro h
        obtain ⟨letter, tail, hspells, htail, rfl⟩ := List.forall₂_cons_right_iff.mp h
        have hletter := hword.capital letter List.mem_cons_self
        rw [(upperChar_eq_singleton_iff hletter).mpr hspells, (ih hword.tail).mpr htail]
        rfl

theorem upper_eq_iff_spells {word : String} (hword : Plain word.toList) (text : String) :
    upper text = word ↔ Spells word text := by
  rw [upper, ← String.toList_inj, String.toList_ofList, upperChars_eq_iff_spells hword, Spells]

/-- A character that stands for one letter has a capital form of one character. -/
theorem length_upperChar_of_spells {word cs : List Char} (hword : Plain word)
    (h : List.Forall₂ SpellsLetter word cs) : ∀ c ∈ cs, (upperChar c).length = 1 := by
  induction h with
  | nil => exact List.forall_mem_nil _
  | @cons letter c word cs hspells _ ih =>
      have hletter := hword.capital letter List.mem_cons_self
      refine List.forall_mem_cons.mpr ⟨?_, ih hword.tail⟩
      rw [(upperChar_eq_singleton_iff hletter).mpr hspells, List.length_singleton]

end Text

namespace Instruction

open Text

/-! ## Words that the readers look for -/

/-- The kinds, the keywords and the codes of currencies. -/
def fixedWords : List String :=
  ["DEBIT", "CREDIT", "FROM", "TO", "ACCOUNT", "FOR", "ON", "NGN", "USD", "GBP", "GHS"]

theorem plain_of_mem_fixedWords : ∀ word ∈ fixedWords, Plain word.toList := by
  decide

theorem Kind.word_mem_fixedWords (kind : Kind) : kind.word ∈ fixedWords := by
  cases kind <;> decide

theorem Kind.keyword_mem_fixedWords (kind : Kind) :
    ∀ slot ∈ kind.slots, slot.keyword ∈ fixedWords := by
  cases kind <;> decide

theorem code_mem_fixedWords (currency : Currency) : currency.code ∈ fixedWords := by
  cases currency <;> decide

theorem upper_eq_iff_of_mem_fixedWords {word : String} (hword : word ∈ fixedWords)
    (text : String) : upper text = word ↔ Spells word text :=
  upper_eq_iff_spells (plain_of_mem_fixedWords word hword) text

theorem stands_iff_spells {tokens : List String} {place : Nat} {word : String}
    (hword : word ∈ fixedWords) :
    Stands tokens place word ↔ ∃ token, tokens[place]? = some token ∧ Spells word token := by
  simp only [Stands, Option.map_eq_some_iff, upper_eq_iff_of_mem_fixedWords hword]

theorem hasOn_iff_spells {fields : Fields} :
    fields.hasOn = true ↔ ∃ token, fields.on = some token ∧ Spells "ON" token := by
  have hon : "ON" ∈ fixedWords := by decide
  simp only [Fields.hasOn, Option.any_eq_true, beq_iff_eq, upper_eq_iff_of_mem_fixedWords hon]

theorem read?_eq_some_iff_spells {raw : Option String} {currency : Currency} :
    Currency.read? raw = some currency ↔ ∃ code, raw = some code ∧ Spells currency.code code := by
  rw [Currency.read?, Currency.ofCode?_eq_some_iff, Currency.normalise,
    upper_eq_iff_of_mem_fixedWords (code_mem_fixedWords currency)]
  cases raw with
  | some code => simp
  | none =>
      -- the empty text spells nothing that has letters
      have hnil : ¬ Spells currency.code "" := by cases currency <;> decide
      simpa using hnil

/-- A fixed word is spelled with one character for each letter: the letter, its small form,
the dotless `ı` for an `I` or the long `ſ` for an `S`. So no character with a longer capital
form occurs in a spelling, and the readers recognise these spellings and no others. -/
theorem fixedWords_spelled :
    (∀ word ∈ fixedWords, ∀ text : String, upper text = word ↔ Spells word text) ∧
    (∀ text : String, upper text ∈ fixedWords →
      ∀ c ∈ text.toList, (upperChar c).length = 1) ∧
    (∀ (tokens : List String) (kind : Kind), kindOf? tokens = some kind ↔
      ∃ token, tokens[0]? = some token ∧ Spells kind.word token) ∧
    (∀ (tokens : List String) (kind : Kind),
      checkKeywords kind.slots (tokens.map upper) = .ok () ↔
        ∀ slot ∈ kind.slots, ∃ token,
          tokens[slot.index]? = some token ∧ Spells slot.keyword token) ∧
    (∀ fields : Fields, fields.hasOn = true ↔
      ∃ token, fields.on = some token ∧ Spells "ON" token) ∧
    (∀ (raw : Option String) (currency : Currency), Currency.read? raw = some currency ↔
      ∃ code, raw = some code ∧ Spells currency.code code) := by
  refine ⟨?_, ?_, ?_, ?_, fun _ => hasOn_iff_spells, fun _ _ => read?_eq_some_iff_spells⟩
  · intro word hword text
    exact upper_eq_iff_of_mem_fixedWords hword text
  · intro text hmem
    have hspells := (upper_eq_iff_of_mem_fixedWords hmem text).mp rfl
    exact length_upperChar_of_spells (plain_of_mem_fixedWords _ hmem) hspells
  · intro tokens kind
    rw [kindOf?_eq_some_iff, stands_iff_spells kind.word_mem_fixedWords]
  · intro tokens kind
    rw [checkKeywords_eq_ok_iff]
    refine forall₂_congr fun slot hslot => ?_
    rw [getElem?_map_upper, stands_iff_spells (kind.keyword_mem_fixedWords slot hslot)]

/-- A debit with a dotless `ı` opens a sentence. -/
theorem fixedWords_spelled_dotless :
    "DEBIT" ∈ fixedWords ∧ Spells "DEBIT" "debıt" ∧ upper "debıt" = "DEBIT" ∧
      kindOf? ["debıt"] = some .debit := by
  have hspells : Spells "DEBIT" "debıt" := by decide
  have hmem : "DEBIT" ∈ fixedWords := by decide
  obtain ⟨hword, _, hkind, _⟩ := fixedWords_spelled
  exact ⟨hmem, hspells, (hword _ hmem _).mpr hspells, (hkind _ .debit).mpr ⟨_, rfl, hspells⟩⟩

end Instruction

end Remittance
