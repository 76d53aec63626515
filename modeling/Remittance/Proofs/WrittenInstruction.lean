import Remittance.Number.Text
import Remittance.Proofs.Grammar
import Remittance.Proofs.Spacing

/-!
# Written instructions

An instruction has a written form, its words with one space between them. Words without
blanks are the tokens of that text (`tokens_spaced`), and those of an instruction spell it
(`sentence_words`). So an instruction whose fields can be read is read back from its written
form (`ofText?_written`).
-/

namespace Remittance.Instruction

open Text

/-! ## Words and spaces -/

/-- A text with at least one character and without blanks. -/
def IsWord (w : String) : Prop :=
  w ≠ "" ∧ ∀ c ∈ w.toList, isBlank c = false

instance (w : String) : Decidable (IsWord w) :=
  @instDecidableAnd _ _ _ (List.decidableBAll (fun c => isBlank c = false) w.toList)

theorem IsWord.isToken {w : String} (h : IsWord w) : IsToken w := by
  refine ⟨h.1, ?_, fun c hc => h.2 c (List.mem_of_mem_head? hc),
    fun c hc => h.2 c (List.mem_of_mem_getLast? hc)⟩
  intro hmem
  cases h.2 ' ' hmem

/-- The words with one space between any two. -/
def spaced : List String → List Char
  | [] => []
  | [w] => w.toList
  | w :: v :: rest => w.toList ++ ' ' :: spaced (v :: rest)

theorem ofList_spaced (words : List String) :
    String.ofList (spaced words) = " ".intercalate words := by
  induction words with
  | nil => rfl
  | cons w words ih =>
      cases words with
      | nil => rw [spaced, String.ofList_toList, String.intercalate_singleton]
      | cons v rest =>
          rw [spaced, String.intercalate_cons_cons, ← ih, ← String.toList_inj]
          simp

/-- The tokens of words with spaces between them are the words. -/
theorem tokens_spaced {words : List String} (h : ∀ w ∈ words, IsWord w) :
    tokens (String.ofList (spaced words)) = words := by
  rw [ofList_spaced]
  exact tokens_intercalate fun w hw => (h w hw).isToken

/-! ## The words of an instruction -/

/-- The words that announce a date, and the date. -/
def dateWords : Option Date → List String
  | none => []
  | some date => ["ON", date.text]

def words (i : Instruction) : List String :=
  match i.kind with
  | .debit =>
    ["DEBIT", wholeText i.amount, i.currency.code, "FROM", "ACCOUNT", i.debitAccount,
      "FOR", "CREDIT", "TO", "ACCOUNT", i.creditAccount] ++ dateWords i.executeBy
  | .credit =>
    ["CREDIT", wholeText i.amount, i.currency.code, "TO", "ACCOUNT", i.creditAccount,
      "FOR", "DEBIT", "FROM", "ACCOUNT", i.debitAccount] ++ dateWords i.executeBy

/-- The instruction as a text. -/
def written (i : Instruction) : String :=
  String.ofList (spaced i.words)

/-- The fields of the instruction are what a sentence can hold. -/
structure Readable (i : Instruction) : Prop where
  pos : 1 ≤ i.amount
  le_largest : i.amount ≤ Binary64.largest
  payer : IsId i.debitAccount
  payee : IsId i.creditAccount

theorem Sentence.readable {tokens : List String} {i : Instruction} (h : Sentence tokens i) :
    i.Readable := by
  obtain ⟨_, _, _, _, _, _, hpos, hle⟩ := h.amount
  exact ⟨hpos, hle, h.payer.2, h.payee.2⟩

theorem toList_wholeText (n : Nat) : (wholeText n).toList = Nat.toDigits 10 n := by
  rw [wholeText, String.toList_ofList]
  rfl

/-- The printing characters of the ASCII range behind the space are not blank. -/
theorem isBlank_of_ascii {c : Char} (hlow : 33 ≤ c.toNat) (hhigh : c.toNat ≤ 126) :
    isBlank c = false := by
  simp only [isBlank, Bool.or_eq_false_iff, Bool.and_eq_false_iff, decide_eq_false_iff_not,
    beq_eq_false_iff_ne]
  omega

theorem isBlank_of_isDigit {c : Char} (h : c.isDigit = true) : isBlank c = false := by
  have hb := Date.toNat_bounds_of_isDigit h
  exact isBlank_of_ascii (by omega) (by omega)

theorem isBlank_of_idChar {c : Char} (h : IdChar c) : isBlank c = false := by
  simp only [IdChar, Char.le_def, UInt32.le_iff_toNat_le] at h
  rcases h with h | h | h | rfl | rfl | rfl
  · exact isBlank_of_ascii (le_trans (by decide) h.1) (le_trans h.2 (by decide))
  · exact isBlank_of_ascii (le_trans (by decide) h.1) (le_trans h.2 (by decide))
  · exact isBlank_of_ascii (le_trans (by decide) h.1) (le_trans h.2 (by decide))
  · rfl
  · rfl
  · rfl

theorem isWord_wholeText (n : Nat) : IsWord (wholeText n) := by
  constructor
  · intro h
    have hnil := congrArg String.toList h
    rw [toList_wholeText] at hnil
    exact Nat.toDigits_ne_nil hnil
  · intro c hc
    rw [toList_wholeText] at hc
    exact isBlank_of_isDigit (Nat.isDigit_of_mem_toDigits (by decide) le_rfl hc)

theorem isWord_text (d : Date) : IsWord d.text := by
  have hchars : d.text.toList = d.toChars := String.toList_ofList
  constructor
  · intro h
    have hlength := d.length_toChars
    rw [← hchars, h] at hlength
    cases hlength
  · intro c hc
    rw [hchars, Date.toChars] at hc
    simp only [List.mem_append, List.mem_cons, or_assoc] at hc
    rcases hc with hc | rfl | hc | rfl | hc
    · exact isBlank_of_isDigit (Date.isDigit_of_mem_paddedDigits hc)
    · rfl
    · exact isBlank_of_isDigit (Date.isDigit_of_mem_paddedDigits hc)
    · rfl
    · exact isBlank_of_isDigit (Date.isDigit_of_mem_paddedDigits hc)

theorem IsId.isWord {id : String} (h : IsId id) : IsWord id :=
  ⟨h.1, fun c hc => isBlank_of_idChar (h.2 c hc)⟩

theorem isWord_code (currency : Currency) : IsWord currency.code := by
  cases currency <;> decide +kernel

theorem isWord_of_mem_dateWords (date : Option Date) : ∀ w ∈ dateWords date, IsWord w := by
  cases date with
  | none => exact List.forall_mem_nil _
  | some d =>
      rw [dateWords, List.forall_mem_cons, List.forall_mem_singleton]
      exact ⟨by decide +kernel, isWord_text d⟩

theorem isWord_of_mem_words {i : Instruction} (h : i.Readable) : ∀ w ∈ i.words, IsWord w := by
  have hfixed : ∀ w ∈ ["DEBIT", "CREDIT", "FROM", "ACCOUNT", "FOR", "TO"], IsWord w := by
    decide +kernel
  simp only [List.forall_mem_cons] at hfixed
  obtain ⟨hdebit, hcredit, hfrom, haccount, hfor, hto, _⟩ := hfixed
  have hamount := isWord_wholeText i.amount
  have hcode := isWord_code i.currency
  rw [words]
  cases i.kind with
  | debit =>
      refine List.forall_mem_append.mpr ⟨?_, isWord_of_mem_dateWords _⟩
      simp only [List.forall_mem_cons]
      exact ⟨hdebit, hamount, hcode, hfrom, haccount, h.payer.isWord, hfor, hcredit, hto,
        haccount, h.payee.isWord, List.forall_mem_nil _⟩
  | credit =>
      refine List.forall_mem_append.mpr ⟨?_, isWord_of_mem_dateWords _⟩
      simp only [List.forall_mem_cons]
      exact ⟨hcredit, hamount, hcode, hto, haccount, h.payee.isWord, hfor, hdebit, hfrom,
        haccount, h.payer.isWord, List.forall_mem_nil _⟩

/-- The digits of an amount in range denote it. -/
theorem isAmount_wholeText {n : Nat} (hpos : 1 ≤ n) (hle : n ≤ Binary64.largest) :
    IsAmount (wholeText n) n := by
  refine ⟨(isWord_wholeText n).1, ?_, ?_, ?_, hpos, hle⟩
  · intro c hc
    rw [toList_wholeText] at hc
    exact Nat.isDigit_of_mem_toDigits (by decide) le_rfl hc
  · have hlt : n < 10 ^ 309 := lt_of_le_of_lt hle (by decide +kernel)
    have hdigits := (Nat.length_toDigits_le_iff (by decide) (by decide)).mpr hlt
    rw [← String.length_toList, toList_wholeText]
    omega
  · rw [toList_wholeText]
    exact Nat.ofDigitChars_ten_toDigits

theorem upper_code (currency : Currency) : upper currency.code = currency.code := by
  cases currency <;> decide +kernel

/-- The words of an instruction spell it. -/
theorem sentence_words {i : Instruction} (h : i.Readable) : Sentence i.words i := by
  have hfixed : ∀ w ∈ ["DEBIT", "CREDIT", "FROM", "ACCOUNT", "FOR", "TO", "ON"],
      upper w = w := by decide +kernel
  simp only [List.forall_mem_cons] at hfixed
  obtain ⟨hdebit, hcredit, hfrom, haccount, hfor, hto, hon, _⟩ := hfixed
  obtain ⟨kind, amount, currency, debitId, creditId, date⟩ := i
  have hamount := isAmount_wholeText h.pos h.le_largest
  -- one goal for every rule of the grammar, of either kind, without a date and with one
  cases kind <;> cases date <;> constructor <;>
    simp [words, dateWords, Stands, Kind.word, HasPhrase, phrasePlaces, Kind.phrase,
      payerToken, payeeToken, upper_code, h.payer, h.payee, hamount, hdebit, hcredit, hfrom,
      haccount, hfor, hto, hon]

/-- An instruction that fits a sentence is read back from its written form. -/
theorem ofText?_written {i : Instruction} (h : i.Readable) : ofText? i.written = some (.ok i) := by
  have hsentence := sentence_words h
  unfold ofText?
  dsimp only
  rw [written, tokens_spaced (isWord_of_mem_words h), kindOf?_eq_some_iff.mpr hsentence.kind,
    Option.map_some, (ofTokens_ok_iff_sentence hsentence.kind).mpr ⟨hsentence, rfl⟩]

end Remittance.Instruction
