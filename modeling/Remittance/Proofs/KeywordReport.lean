import Remittance.Proofs.EditScript
import Remittance.Proofs.Field

/-!
# The report on the keywords

The words of a sentence are checked all at once, so the customer learns of every one that is
missing, or of every one that is wrong. A report names the places it is about, each once and
in order (`Picks`), and has one note for each wrong word, with a suggestion for a single typo
and for nothing else (`Notes`). It leaves no place out (`checkKeywords_complete`).
-/

namespace Remittance.Instruction

open Text

/-! ## Places in order -/

/-- The list holds the slots with the property, each once and in the order of their
places. -/
structure Picks (p : Slot → Prop) (slots picked : List Slot) : Prop where
  mem_iff : ∀ slot, slot ∈ picked ↔ slot ∈ slots ∧ p slot
  ordered : picked.Pairwise fun a b => a.index < b.index

theorem Kind.slots_ordered (kind : Kind) :
    kind.slots.Pairwise fun a b => a.index < b.index := by
  cases kind <;> decide

theorem picks_filter (p : Slot → Prop) [DecidablePred p] (kind : Kind) :
    Picks p kind.slots (kind.slots.filter p) where
  mem_iff slot := by rw [List.mem_filter, decide_eq_true_eq]
  ordered := kind.slots_ordered.filter _

/-- The last keyword of either kind has the ninth place. -/
theorem Kind.slots_within_iff (kind : Kind) (length : Nat) :
    (∀ slot ∈ kind.slots, slot.index < length) ↔ 10 ≤ length := by
  cases kind <;> simp [Kind.slots] <;> omega

/-! ## Notes -/

/-- One character inserted, deleted or replaced, or two different neighbours swapped. -/
def Typo (word found : String) : Prop :=
  Edit word.toList found.toList ∨ Swapped word.toList found.toList

theorem isNear_iff_typo {word found : String} (hne : found ≠ word) :
    isNear word found = true ↔ Typo word found := by
  have hlist : word.toList ≠ found.toList := fun h => hne (String.toList_inj.mp h).symm
  rw [isNear, isSwap, Bool.or_eq_true, decide_eq_true_eq, editDistance_eq, charDistance_le_one_iff,
    charsSwapped_iff, Typo, or_iff_right hlist]

/-- The note on a slot quotes its keyword and the token that stands there, and suggests the
keyword for a typo of it. -/
inductive Notes (tokens : List String) (slot : Slot) : String → Prop
  | suggesting {found : String} (hfound : tokens[slot.index]? = some found)
      (htypo : Typo slot.keyword found) :
      Notes tokens slot ("expected '" ++ slot.keyword ++ "' but found '" ++ found ++ "'" ++
        (" (did you mean '" ++ slot.keyword ++ "'?)"))
  | plain {found : String} (hfound : tokens[slot.index]? = some found)
      (htypo : ¬ Typo slot.keyword found) :
      Notes tokens slot ("expected '" ++ slot.keyword ++ "' but found '" ++ found ++ "'")

theorem notes_note {tokens : List String} {slot : Slot} {found : String}
    (hfound : tokens[slot.index]? = some found) (hne : found ≠ slot.keyword) :
    Notes tokens slot (Mismatch.note ⟨slot.keyword, found⟩) := by
  by_cases htypo : Typo slot.keyword found
  · rw [Mismatch.note, if_pos ((isNear_iff_typo hne).mpr htypo)]
    exact .suggesting hfound htypo
  · rw [Mismatch.note, if_neg (mt (isNear_iff_typo hne).mp htypo), String.append_empty]
    exact .plain hfound htypo

theorem mismatches_cons_held {tokens : List String} {slot : Slot} (slots : List Slot)
    (hheld : tokens[slot.index]? = some slot.keyword) :
    mismatches (slot :: slots) tokens = mismatches slots tokens := by
  rw [mismatches, List.filterMap_cons_none]
  · rfl
  · rw [hheld]
    exact if_pos rfl

theorem mismatches_cons_wrong {tokens : List String} {slot : Slot} {found : String}
    (slots : List Slot) (hfound : tokens[slot.index]? = some found) (hne : found ≠ slot.keyword) :
    mismatches (slot :: slots) tokens = ⟨slot.keyword, found⟩ :: mismatches slots tokens := by
  rw [mismatches, List.filterMap_cons_some]
  · rfl
  · rw [hfound]
    exact if_neg hne

/-- A sentence that reaches every place has one note on each slot that holds another word. -/
theorem notes_mismatches {tokens : List String} {slots : List Slot}
    (h : ∀ slot ∈ slots, slot.index < tokens.length) :
    List.Forall₂ (Notes tokens)
      (slots.filter fun slot => tokens[slot.index]? ≠ some slot.keyword)
      ((mismatches slots tokens).map Mismatch.note) := by
  induction slots with
  | nil => exact .nil
  | cons slot slots ih =>
      have hrest := ih fun slot hslot => h slot (List.mem_cons_of_mem _ hslot)
      by_cases hheld : tokens[slot.index]? = some slot.keyword
      · rw [List.filter_cons_of_neg (by simp [hheld]), mismatches_cons_held slots hheld]
        exact hrest
      · have hfound := List.getElem?_eq_getElem (h slot List.mem_cons_self)
        rw [hfound, Option.some.injEq] at hheld
        rw [List.filter_cons_of_pos (by simp [hfound, hheld]),
          mismatches_cons_wrong slots hfound hheld, List.map_cons]
        exact .cons (notes_note hfound hheld) hrest

/-! ## The report -/

theorem length_of_held {kind : Kind} {tokens : List String}
    (hheld : ∀ slot ∈ kind.slots, tokens[slot.index]? = some slot.keyword) :
    10 ≤ tokens.length := by
  rw [← kind.slots_within_iff]
  exact fun slot hslot => (List.getElem?_eq_some_iff.mp (hheld slot hslot)).1

/-- All that the check can do. Places past the end come before wrong words. -/
theorem checkKeywords_cases (kind : Kind) (tokens : List String) :
    tokens.length < 10 ∧ checkKeywords kind.slots tokens =
      .error (.missingKeywords (missingKeywords kind.slots tokens)) ∨
    10 ≤ tokens.length ∧ (∀ slot ∈ kind.slots, tokens[slot.index]? = some slot.keyword) ∧
      checkKeywords kind.slots tokens = .ok () ∨
    10 ≤ tokens.length ∧ (∃ slot ∈ kind.slots, tokens[slot.index]? ≠ some slot.keyword) ∧
      checkKeywords kind.slots tokens = .error (.wrongKeywords (mismatches kind.slots tokens)) := by
  have hmissing : missingKeywords kind.slots tokens = [] ↔ 10 ≤ tokens.length := by
    rw [missingKeywords_eq_nil_iff, kind.slots_within_iff]
  by_cases hheld : ∀ slot ∈ kind.slots, tokens[slot.index]? = some slot.keyword
  · exact Or.inr (Or.inl ⟨length_of_held hheld, hheld, checkKeywords_eq_ok_iff.mpr hheld⟩)
  · have hfails := mt checkKeywords_eq_ok_iff.mp hheld
    push Not at hheld
    rw [checkKeywords] at hfails ⊢
    cases hshort : missingKeywords kind.slots tokens with
    | cons keyword rest =>
        have hlen : ¬ 10 ≤ tokens.length := fun hlen => by
          rw [hmissing.mpr hlen] at hshort
          cases hshort
        exact Or.inl ⟨not_le.mp hlen, rfl⟩
    | nil =>
        rw [hshort] at hfails
        cases hwrong : mismatches kind.slots tokens with
        | nil =>
            rw [hwrong] at hfails
            exact absurd rfl hfails
        | cons m rest => exact Or.inr (Or.inr ⟨hmissing.mp hshort, hheld, rfl⟩)

theorem failsWith_missingKeyword_iff {kind : Kind} {tokens : List String} {message : String} :
    FailsWith (checkKeywords kind.slots tokens) .missingKeyword message ↔
      tokens.length < 10 ∧
        (Fault.missingKeywords (missingKeywords kind.slots tokens)).message = message := by
  rcases checkKeywords_cases kind tokens with
    ⟨hshort, hcheck⟩ | ⟨hlong, _, hcheck⟩ | ⟨hlong, _, hcheck⟩
  · rw [hcheck, failsWith_error_iff]
    exact ⟨fun h => ⟨hshort, h.2⟩, fun h => ⟨rfl, h.2⟩⟩
  · rw [hcheck]
    exact iff_of_false failsWith_ok fun h => by omega
  · rw [hcheck, failsWith_error_iff]
    exact iff_of_false (fun h => nomatch h.1) fun h => by omega

theorem failsWith_invalidKeyword_iff {kind : Kind} {tokens : List String} {message : String} :
    FailsWith (checkKeywords kind.slots tokens) .invalidKeyword message ↔
      (10 ≤ tokens.length ∧ ∃ slot ∈ kind.slots, tokens[slot.index]? ≠ some slot.keyword) ∧
        (Fault.wrongKeywords (mismatches kind.slots tokens)).message = message := by
  rcases checkKeywords_cases kind tokens with
    ⟨hshort, hcheck⟩ | ⟨_, hheld, hcheck⟩ | ⟨hlong, hwrong, hcheck⟩
  · rw [hcheck, failsWith_error_iff]
    exact iff_of_false (fun h => nomatch h.1) fun h => by omega
  · rw [hcheck]
    refine iff_of_false failsWith_ok ?_
    rintro ⟨⟨_, slot, hslot, hne⟩, _⟩
    exact hne (hheld slot hslot)
  · rw [hcheck, failsWith_error_iff]
    exact ⟨fun h => ⟨⟨hlong, hwrong⟩, h.2⟩, fun h => ⟨rfl, h.2⟩⟩

/-- The check passes the sentences with every keyword in its place. A sentence of fewer than
ten tokens is told of each keyword whose place lies past its end, and of nothing else. Any
other sentence is told of each wrong word. -/
theorem checkKeywords_complete (kind : Kind) (tokens : List String) :
    (checkKeywords kind.slots tokens = .ok () ↔
      10 ≤ tokens.length ∧ ∀ slot ∈ kind.slots, tokens[slot.index]? = some slot.keyword) ∧
    ((∃ message, FailsWith (checkKeywords kind.slots tokens) .missingKeyword message) ↔
      tokens.length < 10) ∧
    (∀ message, FailsWith (checkKeywords kind.slots tokens) .missingKeyword message →
      ∃ missing, Picks (fun slot => tokens.length ≤ slot.index) kind.slots missing ∧
        message = "Missing keyword(s): " ++ ", ".intercalate (missing.map Slot.keyword)) ∧
    ((∃ message, FailsWith (checkKeywords kind.slots tokens) .invalidKeyword message) ↔
      10 ≤ tokens.length ∧ ∃ slot ∈ kind.slots, tokens[slot.index]? ≠ some slot.keyword) ∧
    (∀ message, FailsWith (checkKeywords kind.slots tokens) .invalidKeyword message →
      ∃ wrong notes,
        Picks (fun slot => tokens[slot.index]? ≠ some slot.keyword) kind.slots wrong ∧
        List.Forall₂ (Notes tokens) wrong notes ∧
        message = "Invalid keyword(s): " ++ "; ".intercalate notes) := by
  simp only [failsWith_missingKeyword_iff, failsWith_invalidKeyword_iff]
  refine ⟨?_, ?_, ?_, ?_, ?_⟩
  · rw [checkKeywords_eq_ok_iff, iff_and_self]
    exact length_of_held
  · exact ⟨fun ⟨_, h, _⟩ => h, fun h => ⟨_, h, rfl⟩⟩
  · rintro message ⟨_, rfl⟩
    exact ⟨_, picks_filter (fun slot => tokens.length ≤ slot.index) kind, rfl⟩
  · exact ⟨fun ⟨_, h, _⟩ => h, fun h => ⟨_, h, rfl⟩⟩
  · rintro message ⟨⟨hlong, _⟩, rfl⟩
    exact ⟨_, _, picks_filter (fun slot => tokens[slot.index]? ≠ some slot.keyword) kind,
      notes_mismatches ((kind.slots_within_iff _).mpr hlong), rfl⟩

end Remittance.Instruction
