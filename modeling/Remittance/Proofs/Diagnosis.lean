import Remittance.Proofs.Grammar

/-!
# What is told about a sentence

A sentence can be wrong in many places at once and is told of one. The table
`diagnoses` lists what can be wrong in the order in which it counts, with the code
and the first words of the reason. Reading follows the table (`ofTokens_follows`),
and so a list of tokens outside the grammar is told of its first fault
(`first_fault_decides`).
-/

namespace Remittance.Instruction

open Text Table

/-- What a customer is told: a code, and how the reason begins. -/
structure Diagnosis where
  code : Code
  lead : String

def Tells (fault : Fault) (d : Diagnosis) : Prop :=
  fault.code = d.code ∧ ∃ rest, fault.message = d.lead ++ rest

def keywordDiagnoses (kind : Kind) (tokens : List String) : Table Diagnosis :=
  [ (tokens.length < 10, ⟨.missingKeyword, "Missing keyword(s): "⟩),
    (¬ HasPhrase kind tokens, ⟨.invalidKeyword, "Invalid keyword(s): "⟩) ]

def dateDiagnoses (tokens : List String) : Table Diagnosis :=
  [ (12 ≤ tokens.length ∧ ¬ Stands tokens 11 "ON" ∧
        (LooksDated tokens[11]? ∨ LooksDated tokens[12]?),
      ⟨.invalidDate, "Date provided without 'ON' keyword"⟩),
    (12 ≤ tokens.length ∧ ¬ Stands tokens 11 "ON", ⟨.missingKeyword, "Missing keyword: 'ON'"⟩),
    (12 ≤ tokens.length ∧ tokens[12]? = none,
      ⟨.invalidDate, "No date provided after 'ON' keyword"⟩),
    (12 ≤ tokens.length ∧ ¬ ∃ d : Date, tokens[12]? = some d.text, ⟨.invalidDate, "Invalid "⟩) ]

def fieldDiagnoses (kind : Kind) (tokens : List String) : Table Diagnosis :=
  [ (¬ ∃ n token, tokens[1]? = some token ∧ IsAmount token n,
      ⟨.invalidAmount, "Invalid amount: amount must be a positive integer"⟩),
    (¬ ∃ currency : Currency, Stands tokens 2 currency.code,
      ⟨.unsupportedCurrency,
        "Unsupported currency: only NGN, USD, GBP and GHS are supported, but found '"⟩),
    (¬ ∃ id, payerToken kind tokens = some id ∧ IsId id,
      ⟨.invalidAccountId, "Invalid account id (from: "⟩),
    (¬ ∃ id, payeeToken kind tokens = some id ∧ IsId id,
      ⟨.invalidAccountId, "Invalid account id (to: "⟩) ]

/-- Everything that can be wrong with a sentence of the given kind: the keywords
count before the date, and the date before the other fields. -/
def diagnoses (kind : Kind) (tokens : List String) : Table Diagnosis :=
  keywordDiagnoses kind tokens ++ (dateDiagnoses tokens ++ fieldDiagnoses kind tokens)

/-! ## One stage after another -/

theorem checkKeywords_follows (kind : Kind) (tokens : List String) :
    Follows Tells (keywordDiagnoses kind tokens)
      (checkKeywords kind.slots (tokens.map upper)) := by
  -- the last keyword of either kind has the ninth place
  have hmissing : missingKeywords kind.slots (tokens.map upper) = [] ↔ 10 ≤ tokens.length := by
    rw [missingKeywords_eq_nil_iff, List.length_map]
    cases kind <;> simp [Kind.slots] <;> omega
  have hphrase : checkKeywords kind.slots (tokens.map upper) = .ok () ↔
      HasPhrase kind tokens := checkKeywords_slots_eq_ok_iff
  unfold checkKeywords at hphrase ⊢
  split
  · rename_i hnil
    have hlen := hmissing.mp hnil
    have hlong : ¬ tokens.length < 10 := by omega
    split
    · rename_i hwrong
      have hp : HasPhrase kind tokens := hphrase.mp (by rw [hnil, hwrong])
      intro row hrow
      simp only [keywordDiagnoses, List.mem_cons, List.not_mem_nil, or_false] at hrow
      rcases hrow with rfl | rfl
      · exact hlong
      · exact not_not_intro hp
    · rename_i hwrong
      refine ⟨_, .later hlong (.first ?_), rfl, _, rfl⟩
      intro hp
      have hok := hphrase.mpr hp
      rw [hnil] at hok
      dsimp only at hok
      split at hok
      · exact hwrong ‹_›
      · cases hok
  · rename_i hne
    refine ⟨_, .first ?_, rfl, _, rfl⟩
    by_contra hlong
    exact hne (hmissing.mpr (by omega))

theorem date_message_lead (fault : Date.Fault) :
    ∃ rest, (Fault.date fault).message = "Invalid " ++ rest := by
  cases fault with
  | format => exact ⟨"date format: date format is YYYY-MM-DD", by decide⟩
  | month => exact ⟨"month, month must be between 1 and 12 in YYYY-MM-DD", by decide⟩
  | day => exact ⟨"day, day cannot be greater than 31 in YYYY-MM-DD", by decide⟩

theorem clear_dateDiagnoses_take {tokens : List String} (hon : Stands tokens 11 "ON") :
    Clear ((dateDiagnoses tokens).take 2) := by
  intro row hrow
  simp only [dateDiagnoses, List.take_succ_cons, List.take_zero, List.mem_cons,
    List.not_mem_nil, or_false] at hrow
  rcases hrow with rfl | rfl
  · exact fun hrow => hrow.2.1 hon
  · exact fun hrow => hrow.2 hon

theorem readDate_follows_announced (kind : Kind) {tokens : List String}
    (hlong : 12 ≤ tokens.length) (hon : Stands tokens 11 "ON") :
    Follows Tells ((dateDiagnoses tokens).drop 2) (readDate (Fields.ofTokens kind tokens)) := by
  cases htoken : tokens[12]? with
  | none =>
      rw [readDate_announced_none hlong hon htoken]
      exact ⟨_, .first ⟨hlong, htoken⟩, rfl, ": date format is YYYY-MM-DD", rfl⟩
  | some token =>
      have hthere : ¬ (12 ≤ tokens.length ∧ tokens[12]? = none) := by
        rw [htoken]
        intro hrow
        cases hrow.2
      rw [readDate_announced_some hlong hon htoken]
      cases hread : Date.ofText token with
      | ok d =>
          intro row hrow
          simp only [dateDiagnoses, List.drop_succ_cons, List.drop_zero, List.mem_cons,
            List.not_mem_nil, or_false] at hrow
          rcases hrow with rfl | rfl
          · exact hthere
          · refine fun hrow => hrow.2 ⟨d, ?_⟩
            rw [htoken, Date.ofText_eq_ok_iff.mp hread]
      | error fault =>
          refine ⟨_, .later hthere (.first ⟨hlong, ?_⟩), rfl, date_message_lead fault⟩
          rintro ⟨d, hd⟩
          rw [htoken] at hd
          rw [Date.ofText_eq_ok_iff.mpr (Option.some.inj hd)] at hread
          cases hread

theorem readDate_follows (kind : Kind) (tokens : List String) :
    Follows Tells (dateDiagnoses tokens) (readDate (Fields.ofTokens kind tokens)) := by
  rcases Nat.lt_or_ge tokens.length 12 with hshort | hlong
  · rw [readDate_short hshort]
    intro row hrow
    simp only [dateDiagnoses, List.mem_cons, List.not_mem_nil, or_false] at hrow
    rcases hrow with rfl | rfl | rfl | rfl <;> exact fun hrow => absurd hrow.1 (by omega)
  -- the reader asks for the word first, the table for what is told without it
  by_cases hon : Stands tokens 11 "ON"
  · exact follows_of_clear_left (s := (dateDiagnoses tokens).take 2)
      (clear_dateDiagnoses_take hon) (readDate_follows_announced kind hlong hon)
  · have hlooks : (looksLikeDate tokens[12]? || looksLikeDate tokens[11]?) = true ↔
        12 ≤ tokens.length ∧ ¬ Stands tokens 11 "ON" ∧
          (LooksDated tokens[11]? ∨ LooksDated tokens[12]?) := by
      rw [Bool.or_eq_true, looksLikeDate_iff, looksLikeDate_iff, or_comm]
      exact ⟨fun h => ⟨hlong, hon, h⟩, fun h => h.2.2⟩
    rw [readDate_unannounced hlong hon]
    refine follows_guard hlooks ⟨rfl, ": date format is YYYY-MM-DD", rfl⟩ ?_
    exact ⟨_, .first ⟨hlong, hon⟩, rfl, "", rfl⟩

theorem readAmount_follows (token : Option String) :
    Follows Tells
      [(¬ ∃ n t, token = some t ∧ IsAmount t n,
        ⟨.invalidAmount, "Invalid amount: amount must be a positive integer"⟩)]
      (readAmount token) := by
  refine follows_of_ok_iff (fun n => readAmount_eq_ok_iff) ?_
  intro fault h
  obtain ⟨f, rfl⟩ := readAmount_error h
  refine ⟨rfl, ?_⟩
  cases f with
  | digits f => exact ⟨_, String.append_assoc⟩
  | tooLong => exact ⟨_, rfl⟩
  | outOfRange => exact ⟨"", rfl⟩

theorem readCurrency_follows (tokens : List String) (place : Nat) :
    Follows Tells
      [(¬ ∃ currency : Currency, Stands tokens place currency.code,
        ⟨.unsupportedCurrency,
          "Unsupported currency: only NGN, USD, GBP and GHS are supported, but found '"⟩)]
      (readCurrency tokens[place]?) := by
  refine follows_of_ok_iff (fun currency => readCurrency_eq_ok_iff) ?_
  intro fault h
  rw [readCurrency_error h]
  exact ⟨rfl, _, String.append_assoc⟩

theorem readId_follows (side : Side) (token : Option String) :
    Follows Tells
      [(¬ ∃ id, token = some id ∧ IsId id,
        ⟨.invalidAccountId, "Invalid account id (" ++ side.word ++ ": "⟩)]
      (readId side token) := by
  refine follows_of_ok_iff (fun id => readId_eq_ok_iff) ?_
  intro fault h
  obtain ⟨f, rfl⟩ := readId_error h
  exact ⟨rfl, _, String.append_assoc⟩

theorem readAccounts_follows (kind : Kind) (tokens : List String) :
    Follows Tells ((fieldDiagnoses kind tokens).drop 2)
      (readAccounts (payerToken kind tokens) (payeeToken kind tokens)) := by
  refine follows_bind (t := (fieldDiagnoses kind tokens).drop 3)
    (readId_follows .payer _) fun _ _ => ?_
  refine follows_bind (t := []) (readId_follows .payee _) fun _ _ => ?_
  exact clear_nil

/-- Reading a sentence follows the table of everything that can be wrong with it. -/
theorem ofTokens_follows (kind : Kind) (tokens : List String) :
    Follows Tells (diagnoses kind tokens) (ofTokens kind tokens) := by
  refine follows_bind (checkKeywords_follows kind tokens) fun _ _ => ?_
  refine follows_bind (readDate_follows kind tokens) fun _ _ => ?_
  refine follows_bind (t := (fieldDiagnoses kind tokens).drop 1)
    (readAmount_follows tokens[1]?) fun _ _ => ?_
  refine follows_bind (t := (fieldDiagnoses kind tokens).drop 2)
    (readCurrency_follows tokens 2) fun _ _ => ?_
  have haccounts := readAccounts_follows kind tokens
  rw [← payer_ofTokens, ← payee_ofTokens] at haccounts
  refine follows_bind (t := []) haccounts fun _ _ => ?_
  exact clear_nil

/-- A list of tokens that opens with a kind and is no sentence is told of its first
fault and of nothing else. -/
theorem first_fault_decides (kind : Kind) (tokens : List String)
    (hkind : Stands tokens 0 kind.word) (hbad : ¬ ∃ i, Sentence tokens i) :
    ∃ fault d, ofTokens kind tokens = .error fault ∧
      (diagnoses kind tokens).Selects d ∧
      fault.code = d.code ∧ (∃ rest, fault.message = d.lead ++ rest) ∧
      ∀ d', (diagnoses kind tokens).Selects d' → d' = d := by
  have hfollows := ofTokens_follows kind tokens
  cases h : ofTokens kind tokens with
  | ok i => exact absurd ⟨i, ((ofTokens_ok_iff_sentence hkind).mp h).1⟩ hbad
  | error fault =>
      rw [h] at hfollows
      obtain ⟨d, hd, hcode, hlead⟩ := hfollows
      exact ⟨fault, d, rfl, hd, hcode, hlead, fun d' hd' => selects_unique hd' hd⟩

/-- A sentence whose amount, currency, first id and date are all wrong. -/
def manyFaults : List String :=
  ["credit", "-5", "EUR", "TO", "ACCOUNT", "a!", "FOR", "DEBIT", "FROM", "ACCOUNT", "b",
    "ON", "2026-02-30"]

theorem first_fault_decides_manyFaults :
    Stands manyFaults 0 Kind.credit.word ∧ (¬ ∃ i, Sentence manyFaults i) ∧
    ∃ fault d, ofTokens .credit manyFaults = .error fault ∧
      (diagnoses .credit manyFaults).Selects d ∧
      fault.code = d.code ∧ (∃ rest, fault.message = d.lead ++ rest) ∧
      ∀ d', (diagnoses .credit manyFaults).Selects d' → d' = d := by
  have hkind : Stands manyFaults 0 Kind.credit.word := by
    show manyFaults[0]?.map upper = some Kind.credit.word
    decide
  have hbad : ¬ ∃ i, Sentence manyFaults i := by
    rintro ⟨i, h⟩
    obtain ⟨token, htoken, _, hdigits, _⟩ := h.amount
    cases htoken
    exact absurd (hdigits '-' (by decide)) (by decide)
  exact ⟨hkind, hbad, first_fault_decides .credit manyFaults hkind hbad⟩

end Remittance.Instruction
