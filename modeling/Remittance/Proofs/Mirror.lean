import Remittance.Proofs.Decision
import Remittance.Proofs.Spacing

/-!
# Debits and credits mirror each other

A debit names the account that pays first, and a credit the one that is paid. Put into
the words of either kind (`wording`), the same fields stand in the places where that kind
looks for them, so every stage finds in a credit what it finds in a debit
(`ofTokens_wording`). Their verdicts differ in the kind and in nothing else
(`process_mirror`), whether the fields can be read or not.
-/

namespace Remittance

open Instruction

/-- The laws of functors are stated for the operator. -/
theorem except_map_eq {α β ε : Type} (f : α → β) (x : Except ε α) : x.map f = f <$> x := rfl

namespace Instruction

/-- The words of a sentence of the given kind, with these words in the places of its fields
and with further words behind them. -/
def wording (kind : Kind) (amount currency payer payee : String) (rest : List String) :
    List String :=
  match kind with
  | .debit =>
    ["DEBIT", amount, currency, "FROM", "ACCOUNT", payer, "FOR", "CREDIT", "TO", "ACCOUNT",
      payee] ++ rest
  | .credit =>
    ["CREDIT", amount, currency, "TO", "ACCOUNT", payee, "FOR", "DEBIT", "FROM", "ACCOUNT",
      payer] ++ rest

section

variable {amount currency payer payee : String} {rest : List String}

theorem kindOf?_wording (kind : Kind) :
    kindOf? (wording kind amount currency payer payee rest) = some kind := by
  have hword : Text.upper kind.word = kind.word := by cases kind <;> decide +kernel
  rw [kindOf?_eq_some_iff, Stands]
  cases kind with
  | debit => exact congrArg some hword
  | credit => exact congrArg some hword

theorem hasPhrase_wording (kind : Kind) :
    HasPhrase kind (wording kind amount currency payer payee rest) := by
  have hfixed : ∀ w ∈ kind.phrase, Text.upper w = w := by cases kind <;> decide +kernel
  have hmap : kind.phrase.map Text.upper = kind.phrase :=
    (List.map_congr_left hfixed).trans (List.map_id _)
  rw [HasPhrase, ← hmap]
  cases kind <;> rfl

/-- A sentence of either kind has the same words in the places of its fields. -/
theorem fields_wording (kind kind' : Kind) :
    Fields.ofTokens kind' (wording kind' amount currency payer payee rest) =
      Fields.ofTokens kind (wording kind amount currency payer payee rest) := by
  cases kind <;> cases kind' <;> rfl

/-- What is read, or what is wrong, is the same in both kinds. -/
theorem ofTokens_wording (kind kind' : Kind) :
    ofTokens kind' (wording kind' amount currency payer payee rest) =
      (ofTokens kind (wording kind amount currency payer payee rest)).map
        fun i => { i with kind := kind' } := by
  unfold ofTokens
  rw [checkKeywords_slots_eq_ok_iff.mpr (hasPhrase_wording kind),
    checkKeywords_slots_eq_ok_iff.mpr (hasPhrase_wording kind'), fields_wording kind kind',
    except_map_eq]
  simp only [map_bind, map_pure]

theorem isToken_of_mem_wording
    (htokens : ∀ w ∈ [amount, currency, payer, payee] ++ rest, IsToken w) (kind : Kind) :
    ∀ w ∈ wording kind amount currency payer payee rest, IsToken w := by
  have hfixed : ∀ w ∈ ["DEBIT", "CREDIT", "FROM", "ACCOUNT", "FOR", "TO"], IsToken w := by
    decide +kernel
  simp only [List.forall_mem_cons] at hfixed
  obtain ⟨hdebit, hcredit, hfrom, haccount, hfor, hto, _⟩ := hfixed
  obtain ⟨hfields, hrest⟩ := List.forall_mem_append.mp htokens
  simp only [List.forall_mem_cons] at hfields
  obtain ⟨hamount, hcurrency, hpayer, hpayee, _⟩ := hfields
  cases kind with
  | debit =>
      refine List.forall_mem_append.mpr ⟨?_, hrest⟩
      simp only [List.forall_mem_cons]
      exact ⟨hdebit, hamount, hcurrency, hfrom, haccount, hpayer, hfor, hcredit, hto, haccount,
        hpayee, List.forall_mem_nil _⟩
  | credit =>
      refine List.forall_mem_append.mpr ⟨?_, hrest⟩
      simp only [List.forall_mem_cons]
      exact ⟨hcredit, hamount, hcurrency, hto, haccount, hpayee, hfor, hdebit, hfrom, haccount,
        hpayer, List.forall_mem_nil _⟩

end

end Instruction

/-! ## Verdicts -/

/-- The verdict under another kind. -/
def Verdict.withKind (kind : Kind) (v : Verdict) : Verdict :=
  { v with kind := some kind }

/-- The rules and the accounts do not depend on the kind of an instruction. -/
theorem decideInstruction_withKind (i : Instruction) (kind : Kind) (accounts : List Account)
    (today : Date) :
    (decideInstruction { i with kind } accounts today).map Verdict.ofOutcome =
      ((decideInstruction i accounts today).map Verdict.ofOutcome).map
        (Verdict.withKind kind) := by
  have hcheck : ∀ debit credit, Rule.check { i with kind } debit credit =
      Rule.check i debit credit := fun _ _ => rfl
  have hsettle : ∀ timing snapshots, settle { i with kind } timing snapshots =
      settle i timing snapshots := fun _ _ => rfl
  unfold decideInstruction
  simp only [except_map_eq, map_bind, hcheck, hsettle]
  refine bind_congr fun selection => ?_
  cases Rule.check i selection.debit selection.credit with
  | error refusal =>
      dsimp only
      cases refusal.message? <;> rfl
  | ok _ =>
      simp only [map_bind]
      rfl

section

variable {amount currency payer payee : String} {rest : List String}

/-- Sentences of both kinds with the same fields have the same verdict but for the kind. -/
theorem evaluate_wording
    (htokens : ∀ w ∈ [amount, currency, payer, payee] ++ rest, IsToken w) (kind kind' : Kind)
    (accounts : List Account) (today : Date) :
    evaluate (" ".intercalate (wording kind' amount currency payer payee rest)) accounts today =
      (evaluate (" ".intercalate (wording kind amount currency payer payee rest)) accounts
        today).map (Verdict.withKind kind') := by
  rw [evaluate, evaluate, sentenceTokens_eq_tokens, sentenceTokens_eq_tokens,
    tokens_intercalate (isToken_of_mem_wording htokens kind),
    tokens_intercalate (isToken_of_mem_wording htokens kind')]
  unfold decideTokens
  rw [kindOf?_wording, kindOf?_wording]
  dsimp only
  rw [ofTokens_wording kind kind']
  cases ofTokens kind (wording kind amount currency payer payee rest) with
  | ok i => exact decideInstruction_withKind i kind' accounts today
  | error fault =>
      simp only [except_map_eq, Except.map_error, fields_wording kind kind', map_bind]
      rfl

end

/-- A debit and a credit that put the same tokens into the same fields have verdicts that
agree in everything but the kind, on the same accounts and the same day. The tokens can be
any, so that the sentences may well be at fault. When a debt is too long to be written,
neither may have a verdict. -/
theorem process_mirror (payload payload' : Value) (accounts : List Account)
    (amount currency payer payee : String) (rest : List String) (today : Date)
    (htokens : ∀ w ∈ [amount, currency, payer, payee] ++ rest, IsToken w)
    (hdebit : Request.ofValue payload =
      .ok ⟨accounts, " ".intercalate (["DEBIT", amount, currency, "FROM", "ACCOUNT", payer,
        "FOR", "CREDIT", "TO", "ACCOUNT", payee] ++ rest)⟩)
    (hcredit : Request.ofValue payload' =
      .ok ⟨accounts, " ".intercalate (["CREDIT", amount, currency, "TO", "ACCOUNT", payee,
        "FOR", "DEBIT", "FROM", "ACCOUNT", payer] ++ rest)⟩) :
    (∃ verdict, process payload today = .ok verdict ∧ verdict.kind = some .debit ∧
      process payload' today = .ok { verdict with kind := some .credit }) ∨
    (∃ a ∈ accounts, ¬ a.ShortDebt) ∧ process payload today = .error .unprintable ∧
      process payload' today = .error .unprintable := by
  change Request.ofValue payload =
    .ok ⟨accounts, " ".intercalate (wording .debit amount currency payer payee rest)⟩ at hdebit
  change Request.ofValue payload' =
    .ok ⟨accounts, " ".intercalate (wording .credit amount currency payer payee rest)⟩ at hcredit
  have hself := evaluate_wording htokens .debit .debit accounts today
  have hmirror := evaluate_wording htokens .debit .credit accounts today
  have hprocess := process_eq_evaluate hdebit today
  have hprocess' := process_eq_evaluate hcredit today
  dsimp only at hprocess hprocess'
  rcases process_cases hdebit today with ⟨outcome, hok, _⟩ | ⟨herror, hlong⟩
  · rw [← hprocess, hok] at hself hmirror
    refine Or.inl ⟨_, hok, congrArg Verdict.kind (Except.ok.inj hself), ?_⟩
    rw [hprocess', hmirror]
    rfl
  · rw [← hprocess, herror] at hmirror
    refine Or.inr ⟨hlong.exists_debt, herror, ?_⟩
    rw [hprocess', hmirror]
    rfl

/-- The debit of an amount that is none to an id that cannot be one, with a tab in it. -/
def faultyDebit : Request where
  accounts := [⟨"A1", .number (.whole 500), some "NGN"⟩, ⟨"A\t2", .number (.whole 50), some "ngn"⟩]
  instruction := "DEBIT 12.50 ngn FROM ACCOUNT A1 FOR CREDIT TO ACCOUNT A\t2 ON 2026-02-01"

/-- The credit with the fields of `faultyDebit`. -/
def faultyCredit : Request where
  accounts := faultyDebit.accounts
  instruction := "CREDIT 12.50 ngn TO ACCOUNT A\t2 FOR DEBIT FROM ACCOUNT A1 ON 2026-02-01"

theorem process_mirror_faultyDebit :
    (∀ w ∈ ["12.50", "ngn", "A1", "A\t2"] ++ ["ON", "2026-02-01"], IsToken w) ∧
    Request.ofValue faultyDebit.toValue =
      .ok ⟨faultyDebit.accounts, " ".intercalate (["DEBIT", "12.50", "ngn", "FROM", "ACCOUNT",
        "A1", "FOR", "CREDIT", "TO", "ACCOUNT", "A\t2"] ++ ["ON", "2026-02-01"])⟩ ∧
    Request.ofValue faultyCredit.toValue =
      .ok ⟨faultyDebit.accounts, " ".intercalate (["CREDIT", "12.50", "ngn", "TO", "ACCOUNT",
        "A\t2", "FOR", "DEBIT", "FROM", "ACCOUNT", "A1"] ++ ["ON", "2026-02-01"])⟩ ∧
    ∃ verdict, process faultyDebit.toValue ⟨2026, 1, 15, by decide⟩ = .ok verdict ∧
      verdict.kind = some .debit ∧
      process faultyCredit.toValue ⟨2026, 1, 15, by decide⟩ =
        .ok { verdict with kind := some .credit } := by
  have htokens : ∀ w ∈ ["12.50", "ngn", "A1", "A\t2"] ++ ["ON", "2026-02-01"], IsToken w := by
    decide +kernel
  have hshaped : ∀ a ∈ faultyDebit.accounts, a.Shaped := by decide +kernel
  have hlist := Request.accountsOf_accountsValue hshaped
  have hdebit := Request.ofValue_payload faultyDebit.instruction hlist
  have hcredit := Request.ofValue_payload faultyCredit.instruction hlist
  have hdebts : ¬ ∃ a ∈ faultyDebit.accounts, ¬ a.ShortDebt := by
    simp [faultyDebit, Account.ShortDebt]
  exact ⟨htokens, hdebit, hcredit, (process_mirror _ _ _ _ _ _ _ _ _ htokens hdebit
    hcredit).resolve_right fun hlong => hdebts hlong.1⟩

end Remittance
