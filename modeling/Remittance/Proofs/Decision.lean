import Remittance.Proofs.Rules
import Remittance.Proofs.Tokens

/-!
# What becomes of a sentence

`Decided` gives the outcome of a sentence about shaped accounts in five cases. Processing
reaches one of them, unless the sentence is a payment that is refused for a balance that is
too long to be written (`evaluate_cases`). From it follows what a verdict says about a
payload of the right shape (`process_decides`).
-/

namespace Remittance

open Instruction Table

/-! ## Outcomes -/

/-- The snapshots report what an instruction with these two ids is about. -/
def ReportsOf (accounts : List Account) (debitId creditId : Option String)
    (snapshots : List Snapshot) : Prop :=
  List.Forall₂ Snapshot.Reports snapshots (Selection.reported accounts debitId creditId)

/-- What becomes of a text about shaped accounts. Only the last case moves money, and
it moves the amount between the two accounts of a payment that keeps the rules. -/
inductive Decided (accounts : List Account) (text : String) (today : Date) : Outcome → Prop
  | unrecognised (h : ofText? text = none) : Decided accounts text today .unrecognised
  | unreadable {kind : Kind} {fault : Fault} {snapshots : List Snapshot}
      (hkind : Stands (tokens text) 0 kind.word) (h : ofText? text = some (.error fault))
      (hreports : ReportsOf accounts (payerToken kind (tokens text))
        (payeeToken kind (tokens text)) snapshots) :
      Decided accounts text today (.unreadable kind fault snapshots)
  | refused {i : Instruction} {refusal : Refusal} {reason : String} {snapshots : List Snapshot}
      (h : ofText? text = some (.ok i)) (hcode : (obstacles accounts i).Selects refusal.code)
      (hreason : refusal.message? = some reason)
      (hreports : ReportsOf accounts (some i.debitAccount) (some i.creditAccount) snapshots) :
      Decided accounts text today (.refused i refusal reason snapshots)
  | waiting {i : Instruction} {debit credit : Account} {d : Date} {s t : Snapshot}
      (h : ofText? text = some (.ok i)) (hpay : Payable accounts i debit credit)
      (hdate : i.executeBy = some d) (hlater : today < d)
      (hdebit : s.Reports debit) (hcredit : t.Reports credit) :
      Decided accounts text today (.accepted i .later [s, t])
  | moved {i : Instruction} {debit credit : Account} {s t : Snapshot} {x y : Number}
      (h : ofText? text = some (.ok i)) (hpay : Payable accounts i debit credit)
      (hdate : ∀ d, i.executeBy = some d → ¬ today < d)
      (hdebit : s.Reports debit) (hcredit : t.Reports credit)
      (hx : s.balanceBefore.minus? i.amount = some x)
      (hy : t.balanceBefore.plus? i.amount = some y) :
      Decided accounts text today
        (.accepted i .now [{ s with balance := x }, { t with balance := y }])

theorem amount_le_largest {text : String} {i : Instruction} (h : ofText? text = some (.ok i)) :
    i.amount ≤ Binary64.largest := by
  obtain ⟨kind, _, hread⟩ := ofText?_eq_some_iff.mp h
  obtain ⟨_, _, hamount, _⟩ := ofTokens_eq_ok_iff.mp hread
  obtain ⟨_, _, _, _, _, _, _, hle⟩ := readAmount_eq_ok_iff.mp hamount
  exact hle

theorem selectAccounts_eq_ok {accounts : List Account} (h : ∀ a ∈ accounts, a.Shaped)
    (debitId creditId : Option String) :
    ∃ snapshots, selectAccounts accounts debitId creditId =
        .ok ⟨Account.find? accounts debitId, Account.find? accounts creditId, snapshots⟩ ∧
      ReportsOf accounts debitId creditId snapshots := by
  obtain ⟨snapshots, hselect, hreports⟩ := Selection.ofIds_eq_ok h debitId creditId
  refine ⟨snapshots, ?_, hreports⟩
  rw [selectAccounts, hselect]
  rfl

/-- A payment that meets no obstacle is settled: it waits for its date, or its amount moves. -/
theorem settle_of_clear {accounts : List Account} {text : String} {i : Instruction}
    {snapshots : List Snapshot}
    (h : ofText? text = some (.ok i)) (hclear : (obstacles accounts i).Clear)
    (hreports : ReportsOf accounts (some i.debitAccount) (some i.creditAccount) snapshots)
    (today : Date) :
    ∃ moved, settle i (Timing.ofDate (i.executeBy.map Date.text) today) snapshots = .ok moved ∧
      Decided accounts text today
        (.accepted i (Timing.ofDate (i.executeBy.map Date.text) today) moved) := by
  -- the payment is payable and reports exactly two accounts
  obtain ⟨debit, credit, hpay⟩ := exists_payable_of_clear hclear
  rw [ReportsOf, Selection.reported_eq_pair hpay.payer hpay.payee hpay.distinct] at hreports
  obtain ⟨s, rest, hdebit, hrest, rfl⟩ := List.forall₂_cons_right_iff.mp hreports
  obtain ⟨t, none, hcredit, hnone, rfl⟩ := List.forall₂_cons_right_iff.mp hrest
  obtain rfl := List.forall₂_nil_right_iff.mp hnone
  cases htiming : Timing.ofDate (i.executeBy.map Date.text) today with
  | later =>
      obtain ⟨d, hdate, hlater⟩ := Timing.ofDate_eq_later_iff.mp htiming
      exact ⟨_, rfl, .waiting h hpay hdate hlater hdebit hcredit⟩
  | now =>
      have hs : s.id = i.debitAccount := hdebit.id.trans hpay.payer.id_eq
      have ht : t.id = i.creditAccount := hcredit.id.trans hpay.payee.id_eq
      obtain ⟨x, y, hx, hy, htransfer⟩ :=
        Snapshot.transferAll?_eq_some hs ht hpay.distinct (amount_le_largest h)
      refine ⟨_, ?_, .moved h hpay (Timing.ofDate_eq_now_iff.mp htiming) hdebit hcredit hx hy⟩
      rw [settle, htransfer]

/-- The text reads as an unprintable payment. -/
def UnprintableText (accounts : List Account) (text : String) : Prop :=
  ∃ i, ofText? text = some (.ok i) ∧ Unprintable accounts i

theorem not_unprintableText {accounts : List Account} (h : ∀ a ∈ accounts, a.ShortDebt)
    (text : String) : ¬ UnprintableText accounts text := by
  rintro ⟨i, hread, hlong⟩
  exact not_unprintable h hlong

theorem UnprintableText.exists_debt {accounts : List Account} {text : String}
    (h : UnprintableText accounts text) : ∃ a ∈ accounts, ¬ a.ShortDebt := by
  by_contra hnone
  push Not at hnone
  exact not_unprintableText hnone text h

theorem unprintableText_iff {accounts : List Account} {text : String} {i : Instruction}
    (h : ofText? text = some (.ok i)) :
    UnprintableText accounts text ↔ Unprintable accounts i := by
  simp [UnprintableText, h]

section

variable {accounts : List Account} (hshaped : ∀ a ∈ accounts, a.Shaped)
include hshaped

theorem decideInstruction_cases {text : String} {i : Instruction}
    (h : ofText? text = some (.ok i)) (today : Date) :
    (∃ outcome, decideInstruction i accounts today = .ok outcome ∧
      Decided accounts text today outcome ∧ ¬ Unprintable accounts i) ∨
    decideInstruction i accounts today = .error .unprintable ∧ Unprintable accounts i := by
  obtain ⟨snapshots, hselect, hreports⟩ :=
    selectAccounts_eq_ok hshaped (some i.debitAccount) (some i.creditAccount)
  have hfollows := Rule.check_follows (i := i) hshaped
  unfold decideInstruction
  rw [hselect]
  simp only [bind, Except.bind, pure, Except.pure]
  cases hcheck : Rule.check i (Account.find? accounts (some i.debitAccount))
      (Account.find? accounts (some i.creditAccount)) with
  | error refusal =>
      rw [hcheck] at hfollows
      obtain ⟨code, hselects, rfl⟩ := hfollows
      have hwords :=
        Rule.message?_eq_none_iff_unprintable hshaped (amount_le_largest h) hcheck
      dsimp only
      cases hreason : refusal.message? with
      | none => exact Or.inr ⟨rfl, hwords.mp hreason⟩
      | some reason =>
          refine Or.inl ⟨_, rfl, .refused h hselects hreason hreports, fun hlong => ?_⟩
          rw [hwords.mpr hlong] at hreason
          cases hreason
  | ok _ =>
      rw [hcheck] at hfollows
      obtain ⟨moved, hsettle, hdecided⟩ := settle_of_clear h hfollows hreports today
      dsimp only
      rw [hsettle]
      exact Or.inl ⟨_, rfl, hdecided, not_unprintable_of_clear hfollows⟩

theorem decideTokens_cases (text : String) (today : Date) :
    (∃ outcome, decideTokens (tokens text) accounts today = .ok outcome ∧
      Decided accounts text today outcome ∧ ¬ UnprintableText accounts text) ∨
    decideTokens (tokens text) accounts today = .error .unprintable ∧
      UnprintableText accounts text := by
  unfold decideTokens
  cases hkind : kindOf? (tokens text) with
  | none =>
      have hread : ofText? text = none := by
        rw [ofText?, hkind]
        rfl
      refine Or.inl ⟨.unrecognised, rfl, .unrecognised hread, ?_⟩
      simp [UnprintableText, hread]
  | some kind =>
      have hstands := kindOf?_eq_some_iff.mp hkind
      dsimp only
      cases hread : ofTokens kind (tokens text) with
      | ok i =>
          have htext := ofText?_eq_some_iff.mpr ⟨kind, hstands, hread⟩
          rw [unprintableText_iff htext]
          exact decideInstruction_cases hshaped htext today
      | error fault =>
          have htext := ofText?_eq_some_iff.mpr ⟨kind, hstands, hread⟩
          obtain ⟨snapshots, hselect, hreports⟩ := selectAccounts_eq_ok hshaped
            (payerToken kind (tokens text)) (payeeToken kind (tokens text))
          refine Or.inl
            ⟨.unreadable kind fault snapshots, ?_, .unreadable hstands htext hreports, ?_⟩
          · dsimp only
            rw [payer_ofTokens, payee_ofTokens, hselect]
            rfl
          · simp [UnprintableText, htext]

/-- A text about shaped accounts has a verdict, which publishes one of the five outcomes,
unless it reads as an unprintable payment. -/
theorem evaluate_cases (text : String) (today : Date) :
    (∃ outcome, evaluate text accounts today = .ok (Verdict.ofOutcome outcome) ∧
      Decided accounts text today outcome ∧ ¬ UnprintableText accounts text) ∨
    evaluate text accounts today = .error .unprintable ∧ UnprintableText accounts text := by
  rw [evaluate, sentenceTokens_eq_tokens]
  rcases decideTokens_cases hshaped text today with ⟨outcome, hok, hdecided⟩ | ⟨herror, hlong⟩
  · rw [hok]
    exact Or.inl ⟨outcome, rfl, hdecided⟩
  · rw [herror]
    exact Or.inr ⟨rfl, hlong⟩

/-- A text that has a verdict has one of the five outcomes. -/
theorem decided_of_evaluate {text : String} {today : Date} {verdict : Verdict}
    (h : evaluate text accounts today = .ok verdict) :
    ∃ outcome, verdict = .ofOutcome outcome ∧ Decided accounts text today outcome := by
  rcases evaluate_cases hshaped text today with ⟨outcome, hok, hdecided, _⟩ | ⟨herror, _⟩
  · exact ⟨outcome, Except.ok.inj (h.symm.trans hok), hdecided⟩
  · rw [herror] at h
    cases h

/-- A text always has a verdict when the balances below zero can be written. -/
theorem evaluate_decided (hdebts : ∀ a ∈ accounts, a.ShortDebt) (text : String) (today : Date) :
    ∃ outcome, evaluate text accounts today = .ok (Verdict.ofOutcome outcome) ∧
      Decided accounts text today outcome := by
  rcases evaluate_cases hshaped text today with ⟨outcome, hok, hdecided, _⟩ | ⟨_, hlong⟩
  · exact ⟨outcome, hok, hdecided⟩
  · exact absurd hlong (not_unprintableText hdebts text)

end

/-- A success has moved its amount. -/
theorem Decided.moved_of_success {accounts : List Account} {text : String} {today : Date}
    {outcome : Outcome} (h : Decided accounts text today outcome)
    (hcode : (Verdict.ofOutcome outcome).code = .success) :
    ∃ (i : Instruction) (debit credit : Account) (s t : Snapshot) (x y : Number),
      outcome = .accepted i .now [{ s with balance := x }, { t with balance := y }] ∧
      Payable accounts i debit credit ∧ s.Reports debit ∧ t.Reports credit ∧
      s.balanceBefore.minus? i.amount = some x ∧ t.balanceBefore.plus? i.amount = some y := by
  cases h with
  | unrecognised _ => cases hcode
  | unreadable _ _ _ => exact absurd hcode (Fault.code_ne _).2.1
  | refused _ _ _ _ => exact absurd hcode (Refusal.code_ne _).2.1
  | waiting _ _ _ _ _ _ => cases hcode
  | moved _ hpay _ hdebit hcredit hx hy =>
      exact ⟨_, _, _, _, _, _, _, rfl, hpay, hdebit, hcredit, hx, hy⟩

/-! ## Verdicts on payloads -/

theorem process_eq_evaluate {payload : Value} {request : Request}
    (hshape : Request.ofValue payload = .ok request) (today : Date) :
    process payload today = evaluate request.instruction request.accounts today := by
  unfold process readRequest
  rw [hshape]
  simp only [Except.mapError, bind, Except.bind]

/-- A payload of the right shape has a verdict, unless it is an unprintable payment. -/
theorem process_cases {payload : Value} {request : Request}
    (hshape : Request.ofValue payload = .ok request) (today : Date) :
    (∃ outcome, process payload today = .ok (Verdict.ofOutcome outcome) ∧
      Decided request.accounts request.instruction today outcome ∧
      ¬ UnprintableText request.accounts request.instruction) ∨
    process payload today = .error .unprintable ∧
      UnprintableText request.accounts request.instruction := by
  rw [process_eq_evaluate hshape]
  exact evaluate_cases (Request.shaped_of_ofValue hshape) request.instruction today

theorem exists_verdict_or_unprintable {payload : Value} {request : Request}
    (hshape : Request.ofValue payload = .ok request) (today : Date) :
    (∃ verdict, process payload today = .ok verdict) ∨
    process payload today = .error .unprintable ∧
      UnprintableText request.accounts request.instruction :=
  (process_cases hshape today).imp_left fun ⟨_, hok, _⟩ => ⟨_, hok⟩

/-- The code of the first thing that is wrong with a text about accounts. -/
inductive Fails (accounts : List Account) (text : String) : Code → Prop
  | unrecognised (h : ∀ kind : Kind, ¬ Stands (tokens text) 0 kind.word) :
      Fails accounts text .malformed
  | unreadable {fault : Fault} (h : ofText? text = some (.error fault)) :
      Fails accounts text fault.code
  | refused {i : Instruction} {code : Code} (h : ofText? text = some (.ok i))
      (hcode : (obstacles accounts i).Selects code) : Fails accounts text code

theorem ofText?_eq_none_iff {text : String} :
    ofText? text = none ↔ ∀ kind : Kind, ¬ Stands (tokens text) 0 kind.word := by
  constructor
  · intro h kind hkind
    rw [ofText?_eq_some_iff.mpr ⟨kind, hkind, rfl⟩] at h
    cases h
  · intro h
    cases hread : ofText? text with
    | none => rfl
    | some read =>
        obtain ⟨kind, hkind, _⟩ := ofText?_eq_some_iff.mp hread
        exact absurd hkind (h kind)

namespace Fails

variable {accounts : List Account} {text : String} {code code' : Code}

/-- What a text reads as settles how it fails. -/
theorem iff_read : Fails accounts text code ↔
    ofText? text = none ∧ code = .malformed ∨
    (∃ fault, ofText? text = some (.error fault) ∧ code = fault.code) ∨
    ∃ i, ofText? text = some (.ok i) ∧ (obstacles accounts i).Selects code := by
  constructor
  · intro h
    cases h with
    | unrecognised h => exact Or.inl ⟨ofText?_eq_none_iff.mpr h, rfl⟩
    | unreadable h => exact Or.inr (Or.inl ⟨_, h, rfl⟩)
    | refused h hcode => exact Or.inr (Or.inr ⟨_, h, hcode⟩)
  · rintro (⟨h, rfl⟩ | ⟨fault, h, rfl⟩ | ⟨i, h, hcode⟩)
    · exact .unrecognised (ofText?_eq_none_iff.mp h)
    · exact .unreadable h
    · exact .refused h hcode

theorem not_payable (h : Fails accounts text code) {i : Instruction} {debit credit : Account}
    (hread : ofText? text = some (.ok i)) : ¬ Payable accounts i debit credit := by
  intro hpay
  rw [iff_read, hread] at h
  rcases h with ⟨⟨⟩, _⟩ | ⟨_, ⟨⟩, _⟩ | ⟨_, ⟨⟩, hcode⟩
  exact not_selects_of_clear hpay.clear_obstacles hcode

theorem unique (h : Fails accounts text code) (h' : Fails accounts text code') :
    code = code' := by
  rw [iff_read] at h'
  cases h with
  | unrecognised h =>
      rw [ofText?_eq_none_iff.mpr h] at h'
      rcases h' with ⟨_, rfl⟩ | ⟨_, ⟨⟩, _⟩ | ⟨_, ⟨⟩, _⟩
      rfl
  | unreadable h =>
      rw [h] at h'
      rcases h' with ⟨⟨⟩, _⟩ | ⟨_, ⟨⟩, rfl⟩ | ⟨_, ⟨⟩, _⟩
      rfl
  | refused h hcode =>
      rw [h] at h'
      rcases h' with ⟨⟨⟩, _⟩ | ⟨_, ⟨⟩, _⟩ | ⟨_, ⟨⟩, hcode'⟩
      exact selects_unique hcode hcode'

end Fails

/-- A verdict fails with the first thing that is wrong, waits for a date after today,
or succeeds now. -/
theorem Decided.status_cases {accounts : List Account} {text : String} {today : Date}
    {outcome : Outcome} (h : Decided accounts text today outcome) :
    ((Verdict.ofOutcome outcome).status = .failed ∧
      Fails accounts text (Verdict.ofOutcome outcome).code) ∨
    ∃ i debit credit, ofText? text = some (.ok i) ∧ Payable accounts i debit credit ∧
      ((Verdict.ofOutcome outcome).status = .pending ∧ (∃ d, i.executeBy = some d ∧ today < d) ∨
        (Verdict.ofOutcome outcome).status = .successful ∧
          ∀ d, i.executeBy = some d → ¬ today < d) := by
  cases h with
  | unrecognised h => exact Or.inl ⟨rfl, .unrecognised (ofText?_eq_none_iff.mp h)⟩
  | unreadable _ h _ => exact Or.inl ⟨rfl, .unreadable h⟩
  | refused h hcode _ _ => exact Or.inl ⟨rfl, .refused h hcode⟩
  | waiting h hpay hdate hlater _ _ =>
      exact Or.inr ⟨_, _, _, h, hpay, Or.inl ⟨rfl, _, hdate, hlater⟩⟩
  | moved h hpay hdate _ _ _ _ => exact Or.inr ⟨_, _, _, h, hpay, Or.inr ⟨rfl, hdate⟩⟩

/-- A payload of the right shape always has a verdict, if its balances below zero are not
too long to be written. It passes exactly when the sentence reads as a payment that keeps
the rules, it is pending exactly when such a payment has a date after today, and otherwise
it fails with the code of the first thing that is wrong. -/
theorem process_decides (payload : Value) (request : Request) (today : Date)
    (hshape : Request.ofValue payload = .ok request)
    (hdebts : ∀ a ∈ request.accounts, a.ShortDebt) :
    ∃ verdict, process payload today = .ok verdict ∧
      (verdict.status = .successful ∨ verdict.status = .pending ↔
        ∃ i debit credit, ofText? request.instruction = some (.ok i) ∧
          Payable request.accounts i debit credit) ∧
      (verdict.status = .pending ↔
        ∃ i debit credit d, ofText? request.instruction = some (.ok i) ∧
          Payable request.accounts i debit credit ∧ i.executeBy = some d ∧ today < d) ∧
      ((¬ ∃ i debit credit, ofText? request.instruction = some (.ok i) ∧
          Payable request.accounts i debit credit) →
        verdict.status = .failed ∧
          ∀ code, Fails request.accounts request.instruction code ↔ code = verdict.code) := by
  obtain ⟨outcome, hevaluate, hdecided⟩ :=
    evaluate_decided (Request.shaped_of_ofValue hshape) hdebts request.instruction today
  refine ⟨Verdict.ofOutcome outcome, (process_eq_evaluate hshape today).trans hevaluate, ?_⟩
  rcases hdecided.status_cases with ⟨hstatus, hfails⟩ | ⟨i, debit, credit, hread, hpay, htiming⟩
  · have hnot : ¬ ∃ i debit credit, ofText? request.instruction = some (.ok i) ∧
        Payable request.accounts i debit credit := by
      rintro ⟨i, debit, credit, hread, hpay⟩
      exact hfails.not_payable hread hpay
    rw [hstatus]
    refine ⟨?_, ?_, fun _ => ⟨rfl, fun code => ⟨fun h => h.unique hfails, ?_⟩⟩⟩
    · exact iff_of_false (by simp) hnot
    · refine iff_of_false (by simp) ?_
      rintro ⟨i, debit, credit, d, hread, hpay, _⟩
      exact hnot ⟨i, debit, credit, hread, hpay⟩
    · rintro rfl
      exact hfails
  · refine ⟨?_, ?_, fun hnot => absurd ⟨i, debit, credit, hread, hpay⟩ hnot⟩
    · refine iff_of_true ?_ ⟨i, debit, credit, hread, hpay⟩
      rcases htiming with ⟨hstatus, _⟩ | ⟨hstatus, _⟩
      · exact Or.inr hstatus
      · exact Or.inl hstatus
    · rcases htiming with ⟨hstatus, d, hdate, hlater⟩ | ⟨hstatus, hdate⟩
      · exact iff_of_true hstatus ⟨i, debit, credit, d, hread, hpay, hdate, hlater⟩
      · rw [hstatus]
        refine iff_of_false (by simp) ?_
        -- the text reads as one instruction only, and its date is not after today
        rintro ⟨j, _, _, d, hread', _, hd, hlater⟩
        rw [hread] at hread'
        cases hread'
        exact hdate d hd hlater

/-- A debit between the first two of three accounts. -/
def debitRequest : Request where
  accounts := [⟨"A1", .number (.whole 500), some "NGN"⟩, ⟨"A2", .number (.whole 50), some "ngn"⟩,
    ⟨"A1", .number (.whole 7), some "USD"⟩]
  instruction := "DEBIT 100 NGN FROM ACCOUNT A1 FOR CREDIT TO ACCOUNT A2 ON 2026-02-01"

theorem shortDebt_debitRequest : ∀ a ∈ debitRequest.accounts, a.ShortDebt := by
  simp [debitRequest, Account.ShortDebt]

theorem process_decides_debitRequest :
    Request.ofValue debitRequest.toValue = .ok debitRequest ∧
    (∀ a ∈ debitRequest.accounts, a.ShortDebt) ∧
    ∃ verdict, process debitRequest.toValue ⟨2026, 1, 15, by decide⟩ = .ok verdict ∧
      (verdict.status = .successful ∨ verdict.status = .pending ↔
        ∃ i debit credit, ofText? debitRequest.instruction = some (.ok i) ∧
          Payable debitRequest.accounts i debit credit) ∧
      (verdict.status = .pending ↔
        ∃ i debit credit d, ofText? debitRequest.instruction = some (.ok i) ∧
          Payable debitRequest.accounts i debit credit ∧ i.executeBy = some d ∧
          (⟨2026, 1, 15, by decide⟩ : Date) < d) ∧
      ((¬ ∃ i debit credit, ofText? debitRequest.instruction = some (.ok i) ∧
          Payable debitRequest.accounts i debit credit) →
        verdict.status = .failed ∧
          ∀ code, Fails debitRequest.accounts debitRequest.instruction code ↔
            code = verdict.code) := by
  have hshaped : ∀ a ∈ debitRequest.accounts, a.Shaped := by
    simp only [debitRequest, List.forall_mem_cons]
    exact ⟨⟨⟨_, rfl, rfl⟩, _, rfl⟩, ⟨⟨_, rfl, rfl⟩, _, rfl⟩, ⟨⟨_, rfl, rfl⟩, _, rfl⟩, by simp⟩
  have hshape : Request.ofValue debitRequest.toValue = .ok debitRequest :=
    Request.ofValue_payload _ (Request.accountsOf_accountsValue hshaped)
  exact ⟨hshape, shortDebt_debitRequest, process_decides _ _ _ hshape shortDebt_debitRequest⟩

end Remittance
