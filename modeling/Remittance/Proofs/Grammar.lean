import Remittance.Proofs.Field

/-!
# The grammar of a sentence

`Sentence` says when a list of tokens spells an instruction: which words stand at
which places, what the fields look like, and which instruction they make. The
reader accepts exactly these sentences and yields that instruction
(`ofText?_ok_iff_sentence`).
-/

namespace Remittance.Instruction

open Text

/-- The token that stands where the account that pays is named. -/
def payerToken (kind : Kind) (tokens : List String) : Option String :=
  match kind with
  | .debit => tokens[5]?
  | .credit => tokens[10]?

/-- The token that stands where the account that is paid is named. -/
def payeeToken (kind : Kind) (tokens : List String) : Option String :=
  match kind with
  | .debit => tokens[10]?
  | .credit => tokens[5]?

/-- The tokens spell the instruction. The two ids and the date are taken over as
they are written. -/
structure Sentence (tokens : List String) (i : Instruction) : Prop where
  kind : Stands tokens 0 i.kind.word
  length : tokens.length = 11 ∨ 13 ≤ tokens.length
  phrase : HasPhrase i.kind tokens
  amount : ∃ token, tokens[1]? = some token ∧ IsAmount token i.amount
  currency : Stands tokens 2 i.currency.code
  payer : payerToken i.kind tokens = some i.debitAccount ∧ IsId i.debitAccount
  payee : payeeToken i.kind tokens = some i.creditAccount ∧ IsId i.creditAccount
  announced : 13 ≤ tokens.length → Stands tokens 11 "ON"
  date : tokens[12]? = i.executeBy.map Date.text

theorem payer_ofTokens (kind : Kind) (tokens : List String) :
    (Fields.ofTokens kind tokens).payer = payerToken kind tokens := by
  cases kind <;> rfl

theorem payee_ofTokens (kind : Kind) (tokens : List String) :
    (Fields.ofTokens kind tokens).payee = payeeToken kind tokens := by
  cases kind <;> rfl

theorem readAccounts_eq_ok_iff {payer payee : Option String} {ids : String × String} :
    readAccounts payer payee = .ok ids ↔
      (payer = some ids.1 ∧ IsId ids.1) ∧ payee = some ids.2 ∧ IsId ids.2 := by
  unfold readAccounts
  rw [bind_eq_ok_iff]
  simp only [bind_eq_ok_iff, readId_eq_ok_iff]
  constructor
  · rintro ⟨debit, hdebit, credit, hcredit, h⟩
    cases h
    exact ⟨hdebit, hcredit⟩
  · rintro ⟨hdebit, hcredit⟩
    exact ⟨ids.1, hdebit, ids.2, hcredit, rfl⟩

/-- All stages pass together: each field reads, and the instruction is made of what
was read. -/
theorem ofTokens_eq_ok_iff {kind : Kind} {tokens : List String} {i : Instruction} :
    ofTokens kind tokens = .ok i ↔
      checkKeywords kind.slots (tokens.map upper) = .ok () ∧
      readDate (Fields.ofTokens kind tokens) = .ok i.executeBy ∧
      readAmount tokens[1]? = .ok i.amount ∧
      readCurrency tokens[2]? = .ok i.currency ∧
      readAccounts (payerToken kind tokens) (payeeToken kind tokens) =
        .ok (i.debitAccount, i.creditAccount) ∧
      i.kind = kind := by
  unfold ofTokens
  simp only [bind_eq_ok_iff, payer_ofTokens, payee_ofTokens]
  constructor
  · rintro ⟨_, hkeywords, date, hdate, amount, hamount, currency, hcurrency, ids, hids, h⟩
    cases h
    exact ⟨hkeywords, hdate, hamount, hcurrency, hids, rfl⟩
  · rintro ⟨hkeywords, hdate, hamount, hcurrency, hids, rfl⟩
    exact ⟨(), hkeywords, _, hdate, _, hamount, _, hcurrency, _, hids, rfl⟩

/-- The last place of a sentence without a date is that of the second account. -/
theorem length_of_tokens {kind : Kind} {tokens : List String} {payer payee : String}
    (hpayer : payerToken kind tokens = some payer)
    (hpayee : payeeToken kind tokens = some payee) : 11 ≤ tokens.length := by
  have hten : ∃ id, tokens[10]? = some id := by
    cases kind with
    | debit => exact ⟨payee, hpayee⟩
    | credit => exact ⟨payer, hpayer⟩
  obtain ⟨id, hid⟩ := hten
  exact (List.getElem?_eq_some_iff.mp hid).1

/-- The date clause of a sentence that names both accounts. -/
theorem readDate_eq_ok_iff_clause {kind : Kind} {tokens : List String} {date : Option Date}
    (hlen : 11 ≤ tokens.length) :
    readDate (Fields.ofTokens kind tokens) = .ok date ↔
      (tokens.length = 11 ∨ 13 ≤ tokens.length) ∧
      (13 ≤ tokens.length → Stands tokens 11 "ON") ∧
      tokens[12]? = date.map Date.text := by
  rw [readDate_eq_ok_iff]
  constructor
  · rintro (⟨hshort, rfl⟩ | ⟨_, hon, d, rfl, hd⟩)
    · have hnone : tokens[12]? = none := List.getElem?_eq_none (by omega)
      exact ⟨Or.inl (by omega), fun _ => by omega, hnone⟩
    · have hlong : 12 < tokens.length := (List.getElem?_eq_some_iff.mp hd).1
      exact ⟨Or.inr hlong, fun _ => hon, hd⟩
  · rintro ⟨hshort | hlong, hon, hdate⟩
    · have hnone : tokens[12]? = none := List.getElem?_eq_none (by omega)
      rw [hnone] at hdate
      have hdate' : date = none := Option.map_eq_none_iff.mp hdate.symm
      exact Or.inl ⟨by omega, hdate'⟩
    · rw [List.getElem?_eq_getElem hlong] at hdate
      obtain ⟨d, hd, htext⟩ := Option.map_eq_some_iff.mp hdate.symm
      refine Or.inr ⟨by omega, hon hlong, d, hd, ?_⟩
      rw [List.getElem?_eq_getElem hlong, htext]

/-- Reading the tokens of a recognised kind accepts exactly the sentences of that
kind. -/
theorem ofTokens_ok_iff_sentence {kind : Kind} {tokens : List String} {i : Instruction}
    (hkind : Stands tokens 0 kind.word) :
    ofTokens kind tokens = .ok i ↔ Sentence tokens i ∧ i.kind = kind := by
  rw [ofTokens_eq_ok_iff, checkKeywords_slots_eq_ok_iff, readAmount_eq_ok_iff,
    readCurrency_eq_ok_iff, readAccounts_eq_ok_iff]
  constructor
  · rintro ⟨hphrase, hdate, hamount, hcurrency, ⟨hpayer, hpayee⟩, rfl⟩
    have hlen := length_of_tokens hpayer.1 hpayee.1
    obtain ⟨hlength, hon, hclause⟩ := (readDate_eq_ok_iff_clause hlen).mp hdate
    exact ⟨⟨hkind, hlength, hphrase, hamount, hcurrency, hpayer, hpayee, hon, hclause⟩, rfl⟩
  · rintro ⟨h, rfl⟩
    have hlen := length_of_tokens h.payer.1 h.payee.1
    have hdate : readDate (Fields.ofTokens i.kind tokens) = .ok i.executeBy :=
      (readDate_eq_ok_iff_clause hlen).mpr ⟨h.length, h.announced, h.date⟩
    exact ⟨h.phrase, hdate, h.amount, h.currency, ⟨h.payer, h.payee⟩, rfl⟩

theorem ofText?_eq_some_iff {text : String} {read : Except Fault Instruction} :
    ofText? text = some read ↔
      ∃ kind : Kind, Stands (tokens text) 0 kind.word ∧ ofTokens kind (tokens text) = read := by
  unfold ofText?
  dsimp only
  rw [Option.map_eq_some_iff]
  simp only [kindOf?_eq_some_iff]

/-- A text that reads as an instruction spells it. -/
theorem sentence_of_ofText? {text : String} {i : Instruction}
    (h : ofText? text = some (.ok i)) : Sentence (tokens text) i := by
  obtain ⟨kind, hkind, hread⟩ := ofText?_eq_some_iff.mp h
  exact ((ofTokens_ok_iff_sentence hkind).mp hread).1

/-- A text reads as an instruction exactly when its tokens spell that instruction. -/
theorem ofText?_ok_iff_sentence (text : String) (i : Instruction) :
    ofText? text = some (.ok i) ↔ Sentence (tokens text) i := by
  constructor
  · exact sentence_of_ofText?
  · intro h
    exact ofText?_eq_some_iff.mpr
      ⟨i.kind, h.kind, (ofTokens_ok_iff_sentence h.kind).mpr ⟨h, rfl⟩⟩

end Remittance.Instruction
