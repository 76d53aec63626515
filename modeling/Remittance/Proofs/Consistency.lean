import Remittance.Proofs.Transfer
import Remittance.Proofs.WrittenInstruction

/-!
# Fields of a verdict

A verdict that comes of a sentence that was read has every field of the instruction
(`Filled`), and any other has none (`Blank`). The code tells the two apart, with one
exception: an unsupported currency is found by the reader in the sentence and by a rule in
the accounts. Which fields are known, the status and the code agree on every verdict
(`process_consistent`).
-/

namespace Remittance

open Instruction Table

namespace Code

/-- What is told of a sentence that was read. -/
def ofRead : List Code :=
  [.success, .pending, .insufficientFunds, .sameAccount, .accountNotFound, .currencyMismatch]

/-- What is told of a sentence that could not be read. -/
def ofUnread : List Code :=
  [.missingKeyword, .invalidKeyword, .malformed, .invalidDate, .invalidAmount, .invalidAccountId]

end Code

theorem Instruction.Fault.code_notMem_ofRead (fault : Fault) : fault.code ∉ Code.ofRead := by
  cases fault <;> simp [code, Code.ofRead]

theorem Refusal.code_notMem_ofUnread (refusal : Refusal) : refusal.code ∉ Code.ofUnread := by
  cases refusal <;> simp [code, Code.ofUnread]

theorem Timing.code_notMem_ofUnread (timing : Timing) : timing.code ∉ Code.ofUnread := by
  cases timing <;> simp [code, Code.ofUnread]

namespace Verdict

/-- Nothing is known of an instruction. -/
structure Blank (v : Verdict) : Prop where
  amount : v.amount = none
  currency : v.currency = none
  debitAccount : v.debitAccount = none
  creditAccount : v.creditAccount = none
  executeBy : v.executeBy = none

/-- Everything is known of an instruction, and is what an instruction can hold. Only the
date may be missing. -/
structure Filled (v : Verdict) : Prop where
  amount : ∃ n : Int, v.amount = some n ∧ 1 ≤ n ∧ n ≤ Binary64.largest
  currency : ∃ code ∈ supportedCodes, v.currency = some code
  debitAccount : ∃ id, v.debitAccount = some id ∧ IsId id
  creditAccount : ∃ id, v.creditAccount = some id ∧ IsId id
  executeBy : ∃ date : Option Date, v.executeBy = date.map Date.text

theorem Blank.not_filled {v : Verdict} (h : v.Blank) : ¬ v.Filled := by
  intro hfilled
  obtain ⟨n, hn, _⟩ := hfilled.amount
  rw [h.amount] at hn
  cases hn

theorem code_mem_supportedCodes (currency : Currency) : currency.code ∈ supportedCodes := by
  cases currency <;> simp [Currency.code, supportedCodes]

theorem filled_ofInstruction {i : Instruction} (h : i.Readable) (status : Status)
    (reason : String) (code : Code) (accounts : List Snapshot) :
    (ofInstruction i status reason code accounts).Filled where
  amount := ⟨i.amount, rfl, by exact_mod_cast h.pos, by exact_mod_cast h.le_largest⟩
  currency := ⟨i.currency.code, code_mem_supportedCodes i.currency, rfl⟩
  debitAccount := ⟨i.debitAccount, rfl, h.payer⟩
  creditAccount := ⟨i.creditAccount, rfl, h.payee⟩
  executeBy := ⟨i.executeBy, rfl⟩

end Verdict

/-! ## Outcomes -/

section

variable {accounts : List Account} {text : String} {today : Date} {outcome : Outcome}

theorem Decided.status_eq_pending_iff (h : Decided accounts text today outcome) :
    (Verdict.ofOutcome outcome).status = .pending ↔
      (Verdict.ofOutcome outcome).code = .pending := by
  cases h with
  | unrecognised _ => exact iff_of_false nofun nofun
  | unreadable _ _ _ => exact iff_of_false nofun (Fault.code_ne _).2.2
  | refused _ _ _ _ => exact iff_of_false nofun (Refusal.code_ne _).2.2
  | waiting _ _ _ _ _ _ => exact iff_of_true rfl rfl
  | moved _ _ _ _ _ _ _ => exact iff_of_false nofun nofun

theorem Decided.kind_eq_none_iff (h : Decided accounts text today outcome) :
    (Verdict.ofOutcome outcome).kind = none ↔
      (Verdict.ofOutcome outcome).code = .malformed := by
  cases h with
  | unrecognised _ => exact iff_of_true rfl rfl
  | unreadable _ _ _ => exact iff_of_false nofun (Fault.code_ne _).1
  | refused _ _ _ _ => exact iff_of_false nofun (Refusal.code_ne _).1
  | waiting _ _ _ _ _ _ => exact iff_of_false nofun nofun
  | moved _ _ _ _ _ _ _ => exact iff_of_false nofun nofun

/-- Either the sentence was read, or nothing is known of an instruction. -/
theorem Decided.read_or_blank (h : Decided accounts text today outcome) :
    (∃ i, ofText? text = some (.ok i) ∧ (Verdict.ofOutcome outcome).Filled) ∧
        (Verdict.ofOutcome outcome).code ∉ Code.ofUnread ∨
      (¬ ∃ i, ofText? text = some (.ok i)) ∧ (Verdict.ofOutcome outcome).Blank ∧
        (Verdict.ofOutcome outcome).code ∉ Code.ofRead := by
  cases h with
  | unrecognised h =>
      refine Or.inr ⟨?_, ⟨rfl, rfl, rfl, rfl, rfl⟩, by decide⟩
      rintro ⟨i, hread⟩
      rw [h] at hread
      cases hread
  | unreadable _ h _ =>
      refine Or.inr ⟨?_, ⟨rfl, rfl, rfl, rfl, rfl⟩, Fault.code_notMem_ofRead _⟩
      rintro ⟨i, hread⟩
      rw [h] at hread
      cases hread
  | refused h _ _ _ =>
      exact Or.inl ⟨⟨_, h, Verdict.filled_ofInstruction (sentence_of_ofText? h).readable _ _ _ _⟩,
        Refusal.code_notMem_ofUnread _⟩
  | waiting h _ _ _ _ _ =>
      exact Or.inl ⟨⟨_, h, Verdict.filled_ofInstruction (sentence_of_ofText? h).readable _ _ _ _⟩,
        Timing.code_notMem_ofUnread .later⟩
  | moved h _ _ _ _ _ _ =>
      exact Or.inl ⟨⟨_, h, Verdict.filled_ofInstruction (sentence_of_ofText? h).readable _ _ _ _⟩,
        Timing.code_notMem_ofUnread .now⟩

/-- The verdict names one account twice, and the rules that come before the one against
that pass. -/
def Verdict.OnlyOneAccount (v : Verdict) (accounts : List Account) : Prop :=
  ∃ id code, v.debitAccount = some id ∧ v.creditAccount = some id ∧ v.currency = some code ∧
    ∃ debit credit, Compatible accounts id id code debit credit

theorem onlyOneAccount_ofInstruction_iff {i : Instruction} {status : Status} {reason : String}
    {code : Code} {snapshots : List Snapshot} :
    (Verdict.ofInstruction i status reason code snapshots).OnlyOneAccount accounts ↔
      (obstacles accounts i).Selects .sameAccount := by
  rw [selects_sameAccount_iff]
  constructor
  · rintro ⟨id, code, hdebit, hcredit, hcurrency, h⟩
    cases hdebit
    cases hcurrency
    have hsame : i.creditAccount = i.debitAccount := Option.some.inj hcredit
    rw [hsame]
    exact ⟨rfl, h⟩
  · rintro ⟨hsame, h⟩
    rw [← hsame] at h
    exact ⟨i.debitAccount, i.currency.code, rfl, congrArg some hsame.symm, rfl, h⟩

theorem Decided.code_eq_sameAccount_iff (h : Decided accounts text today outcome) :
    (Verdict.ofOutcome outcome).code = .sameAccount ↔
      (Verdict.ofOutcome outcome).OnlyOneAccount accounts := by
  cases h with
  | unrecognised _ =>
      refine iff_of_false nofun ?_
      rintro ⟨_, _, ⟨⟩, _⟩
  | @unreadable _ fault _ _ _ _ =>
      refine iff_of_false (fun hcode => fault.code_notMem_ofRead ?_) ?_
      · rw [show fault.code = .sameAccount from hcode]
        decide
      · rintro ⟨_, _, ⟨⟩, _⟩
  | @refused _ refusal _ _ _ hcode _ _ =>
      refine Iff.trans ?_ onlyOneAccount_ofInstruction_iff.symm
      show refusal.code = .sameAccount ↔ _
      constructor
      · intro hsame
        rwa [hsame] at hcode
      · exact selects_unique hcode
  | waiting _ hpay _ _ _ _ =>
      refine iff_of_false nofun fun hone => ?_
      exact not_selects_of_clear hpay.clear_obstacles (onlyOneAccount_ofInstruction_iff.mp hone)
  | moved _ hpay _ _ _ _ _ =>
      refine iff_of_false nofun fun hone => ?_
      exact not_selects_of_clear hpay.clear_obstacles (onlyOneAccount_ofInstruction_iff.mp hone)

end

/-! ## Verdicts -/

/-- Status, code and fields of a verdict on a text agree with each other. -/
structure Verdict.Consistent (v : Verdict) (accounts : List Account) (text : String) :
    Prop where
  successful : v.status = .successful ↔ v.code = .success
  pending : v.status = .pending ↔ v.code = .pending
  failed : v.status = .failed ↔ v.code ≠ .success ∧ v.code ≠ .pending
  kind : v.kind = none ↔ v.code = .malformed
  filled : v.Filled ↔ ∃ i, ofText? text = some (.ok i)
  blank : v.Blank ↔ ¬ ∃ i, ofText? text = some (.ok i)
  read : v.code ∈ Code.ofRead → v.Filled
  unread : v.code ∈ Code.ofUnread → v.Blank
  dated : v.status = .pending → ∃ d : Date, v.executeBy = some d.text
  sameAccount : v.code = .sameAccount ↔ v.OnlyOneAccount accounts
  distinct : v.status = .successful ∨ v.status = .pending →
    ∃ payer payee, v.debitAccount = some payer ∧ v.creditAccount = some payee ∧ payer ≠ payee

theorem Decided.consistent {accounts : List Account} {text : String} {today : Date}
    {outcome : Outcome} (h : Decided accounts text today outcome) :
    (Verdict.ofOutcome outcome).Consistent accounts text where
  successful := h.code_eq_success_iff.symm
  pending := h.status_eq_pending_iff
  failed := by
    rw [Ne, Ne, h.code_eq_success_iff, ← h.status_eq_pending_iff]
    cases (Verdict.ofOutcome outcome).status <;> simp
  kind := h.kind_eq_none_iff
  filled := by
    rcases h.read_or_blank with ⟨⟨i, hread, hfilled⟩, _⟩ | ⟨hunread, hblank, _⟩
    · exact iff_of_true hfilled ⟨i, hread⟩
    · exact iff_of_false hblank.not_filled hunread
  blank := by
    rcases h.read_or_blank with ⟨⟨i, hread, hfilled⟩, _⟩ | ⟨hunread, hblank, _⟩
    · exact iff_of_false (fun hblank => hblank.not_filled hfilled) (not_not_intro ⟨i, hread⟩)
    · exact iff_of_true hblank hunread
  read := by
    intro hcode
    rcases h.read_or_blank with ⟨⟨_, _, hfilled⟩, _⟩ | ⟨_, _, hnot⟩
    · exact hfilled
    · exact absurd hcode hnot
  unread := by
    intro hcode
    rcases h.read_or_blank with ⟨_, hnot⟩ | ⟨_, hblank, _⟩
    · exact absurd hcode hnot
    · exact hblank
  dated := by
    intro hstatus
    cases h with
    | waiting _ _ hdate _ _ _ => exact ⟨_, congrArg (Option.map Date.text) hdate⟩
    | unrecognised _ | unreadable _ _ _ | refused _ _ _ _ | moved _ _ _ _ _ _ _ => cases hstatus
  sameAccount := h.code_eq_sameAccount_iff
  distinct := by
    intro hstatus
    cases h with
    | waiting _ hpay _ _ _ _ => exact ⟨_, _, rfl, rfl, hpay.distinct⟩
    | moved _ hpay _ _ _ _ _ => exact ⟨_, _, rfl, rfl, hpay.distinct⟩
    | unrecognised _ | unreadable _ _ _ | refused _ _ _ _ => rcases hstatus with ⟨⟨⟩⟩ | ⟨⟨⟩⟩

theorem consistent_of_process {payload : Value} {request : Request} {today : Date}
    {verdict : Verdict} (hshape : Request.ofValue payload = .ok request)
    (h : process payload today = .ok verdict) :
    verdict.Consistent request.accounts request.instruction := by
  rw [process_eq_evaluate hshape] at h
  obtain ⟨outcome, rfl, hdecided⟩ := decided_of_evaluate (Request.shaped_of_ofValue hshape) h
  exact hdecided.consistent

/-- A payment between accounts in a currency that is not one of settlement, asked for in
the given words. -/
def foreignRequest (words : String) : Request where
  accounts := [⟨"A1", .number (.whole 500), some "eur"⟩, ⟨"A2", .number (.whole 50), some "EUR"⟩]
  instruction := "DEBIT 100 " ++ words ++ " FROM ACCOUNT A1 FOR CREDIT TO ACCOUNT A2"

theorem ofValue_foreignRequest (words : String) :
    Request.ofValue (foreignRequest words).toValue = .ok (foreignRequest words) := by
  have hshaped : ∀ a ∈ (foreignRequest words).accounts, a.Shaped := by
    simp only [foreignRequest, List.forall_mem_cons]
    exact ⟨⟨⟨_, rfl, rfl⟩, _, rfl⟩, ⟨⟨_, rfl, rfl⟩, _, rfl⟩, List.forall_mem_nil _⟩
  exact Request.ofValue_toValue hshaped

/-- A rule finds the currency of the accounts unsupported after the sentence was read. -/
theorem unsupported_of_read :
    ∃ verdict, process (foreignRequest "NGN").toValue ⟨2026, 1, 15, by decide⟩ = .ok verdict ∧
      verdict.code = .unsupportedCurrency ∧ verdict.Filled := by
  have hread : ofText? (foreignRequest "NGN").instruction =
      some (.ok ⟨.debit, 100, .ngn, "A1", "A2", none⟩) := by decide +kernel
  have hcode : (process (foreignRequest "NGN").toValue ⟨2026, 1, 15, by decide⟩).map
      Verdict.code = .ok .unsupportedCurrency := by decide +kernel
  obtain ⟨verdict, hprocess, hcode⟩ := map_eq_ok_iff.mp hcode
  have hconsistent := consistent_of_process (ofValue_foreignRequest "NGN") hprocess
  exact ⟨verdict, hprocess, hcode, hconsistent.filled.mpr ⟨_, hread⟩⟩

/-- The reader finds a currency unsupported, and then nothing of the sentence is told. -/
theorem unsupported_of_unread :
    ∃ verdict, process (foreignRequest "eur").toValue ⟨2026, 1, 15, by decide⟩ = .ok verdict ∧
      verdict.code = .unsupportedCurrency ∧ verdict.Blank := by
  have hread : ofText? (foreignRequest "eur").instruction =
      some (.error (.currency "EUR")) := by decide +kernel
  have hcode : (process (foreignRequest "eur").toValue ⟨2026, 1, 15, by decide⟩).map
      Verdict.code = .ok .unsupportedCurrency := by decide +kernel
  obtain ⟨verdict, hprocess, hcode⟩ := map_eq_ok_iff.mp hcode
  have hconsistent := consistent_of_process (ofValue_foreignRequest "eur") hprocess
  refine ⟨verdict, hprocess, hcode, hconsistent.blank.mpr ?_⟩
  rintro ⟨i, h⟩
  rw [hread] at h
  cases h

/-- The verdict on a payload of the right shape, which only a debt too long to be written
can keep it from, is consistent: its status is that of its
code, it has a kind unless the sentence has none, and it has all fields of an instruction,
each of them in range, or none, as the sentence was read or not. The code tells which, but
for that of an unsupported currency, which comes in both forms. -/
theorem process_consistent (payload : Value) (request : Request) (today : Date)
    (hshape : Request.ofValue payload = .ok request) :
    ((∃ verdict, process payload today = .ok verdict ∧
        verdict.Consistent request.accounts request.instruction) ∨
      process payload today = .error .unprintable ∧
        UnprintableText request.accounts request.instruction) ∧
    (∃ payload' today' verdict, process payload' today' = .ok verdict ∧
      verdict.code = .unsupportedCurrency ∧ verdict.Filled) ∧
    ∃ payload' today' verdict, process payload' today' = .ok verdict ∧
      verdict.code = .unsupportedCurrency ∧ verdict.Blank := by
  refine ⟨?_, ⟨_, _, unsupported_of_read⟩, ⟨_, _, unsupported_of_unread⟩⟩
  exact (exists_verdict_or_unprintable hshape today).imp_left fun ⟨verdict, hverdict⟩ =>
    ⟨verdict, hverdict, consistent_of_process hshape hverdict⟩

/-- A credit from an account to itself, of more than there is. -/
def ownRequest : Request where
  accounts := [⟨"A1", .number (.whole 500), some "ngn"⟩, ⟨"A1", .number (.whole 7), some "EUR"⟩]
  instruction := "CREDIT 900 NGN TO ACCOUNT A1 FOR DEBIT FROM ACCOUNT A1 ON 2026-02-01"

theorem process_consistent_ownRequest :
    Request.ofValue ownRequest.toValue = .ok ownRequest ∧
    (∃ verdict, process ownRequest.toValue ⟨2026, 1, 15, by decide⟩ = .ok verdict ∧
      verdict.Consistent ownRequest.accounts ownRequest.instruction) ∧
    (∃ payload' today' verdict, process payload' today' = .ok verdict ∧
      verdict.code = .unsupportedCurrency ∧ verdict.Filled) ∧
    ∃ payload' today' verdict, process payload' today' = .ok verdict ∧
      verdict.code = .unsupportedCurrency ∧ verdict.Blank := by
  have hshaped : ∀ a ∈ ownRequest.accounts, a.Shaped := by decide +kernel
  have hshape : Request.ofValue ownRequest.toValue = .ok ownRequest :=
    Request.ofValue_toValue hshaped
  have hdebts : ∀ a ∈ ownRequest.accounts, a.ShortDebt := by
    simp [ownRequest, Account.ShortDebt]
  obtain ⟨hverdict | ⟨_, hlong⟩, hforms⟩ :=
    process_consistent _ _ ⟨2026, 1, 15, by decide⟩ hshape
  · exact ⟨hshape, hverdict, hforms⟩
  · exact absurd hlong (not_unprintableText hdebts _)

end Remittance
