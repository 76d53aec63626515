import Remittance.Proofs.Conservation
import Remittance.Proofs.Locality

/-!
# Independent instructions

A verdict posts only to ids that its text names (`Decided.due_eq_zero`), so a text that
names other ids finds its accounts as they were and comes to what it would have come to
before (`evaluate_post_result`). Postings add up in either order. So two instructions that
name no id in common commute (`run_comm`).
-/

namespace Remittance

open Instruction

section

variable {accounts : List Account} {text : String} {today : Date}

theorem Decided.ofText?_of_accepted {i : Instruction} {timing : Timing}
    {snapshots : List Snapshot} (h : Decided accounts text today (.accepted i timing snapshots)) :
    ofText? text = some (.ok i) := by
  cases h with
  | waiting h _ _ _ _ _ => exact h
  | moved h _ _ _ _ _ _ => exact h

/-- Nothing is due to an id that the text does not name. -/
theorem Decided.due_eq_zero {outcome : Outcome} (h : Decided accounts text today outcome)
    {id : String} (hid : id ∉ namedIds text) : (Verdict.ofOutcome outcome).due id = 0 := by
  by_cases hcode : (Verdict.ofOutcome outcome).code = .success
  · obtain ⟨i, _, _, s, t, x, y, rfl, _⟩ := h.moved_of_success hcode
    rw [namedIds_of_ofText? h.ofText?_of_accepted, Set.mem_insert_iff, Set.mem_singleton_iff,
      not_or] at hid
    rw [Ledger.due_moved, due, Pi.single_apply, if_neg hid.1, Pi.single_apply, if_neg hid.2,
      add_zero]
  · rw [Verdict.due_of_code_ne hcode]

end

namespace Ledger

theorem post_comm (due due' : String → Int) (accounts : List Account) :
    post due' (post due accounts) = post due (post due' accounts) := by
  rw [post_post, post_post]
  exact congrArg (fun due => post due accounts) (funext fun id => add_comm _ _)

/-- An id to which nothing is posted keeps its first account. -/
theorem sameFirst_post {accounts : List Account} (hwhole : ∀ a ∈ accounts, a.IsWhole)
    {due : String → Int} {id : String} (hdue : due id = 0) :
    SameFirst accounts (post due accounts) id := by
  cases hfound : Account.find? accounts (some id) with
  | none =>
      have hunlisted := find?_eq_none_iff.mp hfound
      refine .unlisted hunlisted ?_
      intro a ha hid
      have hmem : a.id ∈ (post due accounts).map Account.id := List.mem_map_of_mem ha
      rw [map_id_post] at hmem
      obtain ⟨b, hb, hsame⟩ := List.mem_map.mp hmem
      exact hunlisted b hb (hsame.trans hid)
  | some a =>
      have hfirst := find?_eq_some_iff_isFirst.mp hfound
      have hposted := isFirst_post hfirst due
      rw [hdue, (hwhole a hfirst.mem).plus_zero] at hposted
      exact .listed hfirst hposted rfl rfl

section

variable {submitted : Value} {accounts : List Account}

/-- The line of an instruction holds its verdict on the accounts before it, and what the
verdict posts. Without a verdict there is no line. -/
theorem step_eq_map_post (hlist : Request.accountsOf (some submitted) = .ok accounts)
    (hwhole : ∀ a ∈ accounts, a.IsWhole) (text : String) (today : Date) :
    step submitted (.text text) today =
      (evaluate text accounts today).map fun v => ⟨v, post v.due accounts⟩ := by
  rw [step_eq_map hlist]
  cases hevaluate : evaluate text accounts today with
  | error failure => rfl
  | ok v =>
      obtain ⟨outcome, rfl, hdecided⟩ :=
        decided_of_evaluate (Request.shaped_of_accountsOf hlist) hevaluate
      rw [Except.map, record_eq_post hwhole hdecided]
      rfl

/-- What an instruction comes to in a ledger that goes on after an instruction without a
verdict: its verdict or failure, and the accounts that the next one finds. -/
def attempt (accounts : List Account) (text : String) (today : Date) :
    Except Failure Verdict × List Account :=
  let result := process (Request.payload (Request.accountsValue accounts) (.text text)) today
  match result with
  | .ok v => (result, record accounts v.accounts)
  | .error _ => (result, accounts)

/-- What the result of an instruction posts; nothing without a verdict. -/
def resultDue : Except Failure Verdict → String → Int
  | .ok v, id => v.due id
  | .error _, _ => 0

theorem attempt_eq (hshaped : ∀ a ∈ accounts, a.Shaped) (hwhole : ∀ a ∈ accounts, a.IsWhole)
    (text : String) (today : Date) :
    attempt accounts text today = (evaluate text accounts today,
      post (resultDue (evaluate text accounts today)) accounts) := by
  unfold attempt
  rw [process_eq_evaluate (Request.ofValue_payload text (Request.accountsOf_accountsValue hshaped))]
  dsimp only
  cases hevaluate : evaluate text accounts today with
  | error failure => exact congrArg (Prod.mk _) (post_zero hwhole).symm
  | ok v =>
      obtain ⟨outcome, rfl, hdecided⟩ := decided_of_evaluate hshaped hevaluate
      exact congrArg (Prod.mk _) (record_eq_post hwhole hdecided)

theorem resultDue_eq_zero (hshaped : ∀ a ∈ accounts, a.Shaped) {text : String} {today : Date}
    {id : String} (hid : id ∉ namedIds text) :
    resultDue (evaluate text accounts today) id = 0 := by
  cases hevaluate : evaluate text accounts today with
  | error failure => rfl
  | ok v =>
      obtain ⟨outcome, rfl, hdecided⟩ := decided_of_evaluate hshaped hevaluate
      exact hdecided.due_eq_zero hid

/-- Of two instructions that name no id in common, the second comes to what it would have
come to without the first. -/
theorem evaluate_post_result (hshaped : ∀ a ∈ accounts, a.Shaped)
    (hwhole : ∀ a ∈ accounts, a.IsWhole) {text text' : String}
    (hdisjoint : Disjoint (namedIds text) (namedIds text')) (today : Date) :
    evaluate text' (post (resultDue (evaluate text accounts today)) accounts) today =
      evaluate text' accounts today := by
  have hsame : ∀ id ∈ namedIds text',
      SameFirst accounts (post (resultDue (evaluate text accounts today)) accounts) id :=
    fun id hid => sameFirst_post hwhole
      (resultDue_eq_zero hshaped (Set.disjoint_right.mp hdisjoint hid))
  exact evaluate_eq_of_sameFirst hshaped hsame today

theorem attempt_pair (hlist : Request.accountsOf (some submitted) = .ok accounts)
    (hwhole : ∀ a ∈ accounts, a.IsWhole) {text text' : String}
    (hdisjoint : Disjoint (namedIds text) (namedIds text')) (today : Date) :
    attempt (attempt accounts text today).2 text' today =
      (evaluate text' accounts today, post (resultDue (evaluate text' accounts today))
        (post (resultDue (evaluate text accounts today)) accounts)) := by
  have hshaped := Request.shaped_of_accountsOf hlist
  rw [attempt_eq hshaped hwhole, attempt_eq
    (Request.shaped_of_accountsOf (accountsOf_post hlist hwhole _)) fun _ => isWhole_of_mem_post,
    evaluate_post_result hshaped hwhole hdisjoint]

/-- A run of two such instructions writes the verdicts that both have on the accounts
before it, or stops with the first of them that has none. -/
theorem run_pair (hlist : Request.accountsOf (some submitted) = .ok accounts)
    (hwhole : ∀ a ∈ accounts, a.IsWhole) {text text' : String}
    (hdisjoint : Disjoint (namedIds text) (namedIds text')) (today : Date) :
    run submitted [.text text, .text text'] today = (do
      let v ← evaluate text accounts today
      let v' ← evaluate text' accounts today
      return [⟨v, post v.due accounts⟩, ⟨v', post v'.due (post v.due accounts)⟩]) := by
  have hsame := evaluate_post_result (Request.shaped_of_accountsOf hlist) hwhole hdisjoint today
  have hstep := step_eq_map_post hlist hwhole text today
  cases hevaluate : evaluate text accounts today with
  | error failure =>
      rw [hevaluate] at hstep
      exact run_stopped _ hstep
  | ok v =>
      rw [hevaluate] at hstep hsame
      have hstep' := step_eq_map_post (accountsOf_post hlist hwhole v.due)
        (fun _ => isWhole_of_mem_post) text' today
      rw [show evaluate text' (post v.due accounts) today = evaluate text' accounts today
        from hsame] at hstep'
      rw [run_cons _ hstep]
      cases hevaluate' : evaluate text' accounts today with
      | error failure =>
          rw [hevaluate'] at hstep'
          rw [run_stopped _ hstep']
          rfl
      | ok v' =>
          rw [hevaluate'] at hstep'
          rw [run_cons _ hstep']
          rfl

end

/-- Two instructions that name no id in common come to the same in either order, on whole
balances, and leave the same accounts behind. In a ledger that goes on after an instruction
without a verdict this is so of whatever becomes of them. A run that stops there either has
the same two verdicts in both orders and the same accounts at the end, or stops in both, and
then a debt is too long to be written. -/
theorem run_comm (submitted : Value) (accounts : List Account) (text text' : String)
    (today : Date) (hlist : Request.accountsOf (some submitted) = .ok accounts)
    (hwhole : ∀ a ∈ accounts, ∃ n : Int, a.balance = .number (.whole n))
    (hdisjoint : Disjoint (namedIds text) (namedIds text')) :
    ((attempt (attempt accounts text' today).2 text today).1 = (attempt accounts text today).1 ∧
      (attempt (attempt accounts text today).2 text' today).1 =
        (attempt accounts text' today).1 ∧
      (attempt (attempt accounts text today).2 text' today).2 =
        (attempt (attempt accounts text' today).2 text today).2) ∧
    ((∃ first second first' second' : Entry,
        run submitted [.text text, .text text'] today = .ok [first, second] ∧
        run submitted [.text text', .text text] today = .ok [second', first'] ∧
        first.verdict = first'.verdict ∧ second.verdict = second'.verdict ∧
        second.accounts = first'.accounts) ∨
      (∃ a ∈ accounts, ¬ a.ShortDebt) ∧
        run submitted [.text text, .text text'] today = .error .unprintable ∧
        run submitted [.text text', .text text] today = .error .unprintable) := by
  have hwhole' : ∀ a ∈ accounts, a.IsWhole := fun a ha => Account.isWhole_iff.mpr (hwhole a ha)
  have hshaped := Request.shaped_of_accountsOf hlist
  constructor
  · rw [attempt_pair hlist hwhole' hdisjoint, attempt_pair hlist hwhole' hdisjoint.symm,
      attempt_eq hshaped hwhole', attempt_eq hshaped hwhole']
    exact ⟨rfl, rfl, post_comm _ _ _⟩
  · rw [run_pair hlist hwhole' hdisjoint, run_pair hlist hwhole' hdisjoint.symm]
    rcases evaluate_cases hshaped text today with ⟨_, hok, _⟩ | ⟨herror, hlong⟩
    · rcases evaluate_cases hshaped text' today with ⟨_, hok', _⟩ | ⟨herror', hlong⟩
      · rw [hok, hok']
        exact Or.inl ⟨_, _, _, _, rfl, rfl, rfl, rfl, post_comm _ _ _⟩
      · rw [hok, herror']
        exact Or.inr ⟨hlong.exists_debt, rfl, rfl⟩
    · rw [herror]
      refine Or.inr ⟨hlong.exists_debt, rfl, ?_⟩
      rcases evaluate_cases hshaped text' today with ⟨_, hok', _⟩ | ⟨herror', _⟩
      · rw [hok']
        rfl
      · rw [herror']
        rfl

/-- Two pairs of accounts, and a second account with an id of the first pair. -/
def twoPairs : List Account :=
  [⟨"A1", .number (.whole 500), some "NGN"⟩, ⟨"A2", .number (.whole 50), some "ngn"⟩,
    ⟨"B1", .number (.whole 70), some "GHS"⟩, ⟨"B2", .number (.whole 5), some "GHS"⟩,
    ⟨"A1", .number (.whole 7), some "USD"⟩]

theorem run_comm_twoPairs :
    Request.accountsOf (some (Request.accountsValue twoPairs)) = .ok twoPairs ∧
    (∀ a ∈ twoPairs, ∃ n : Int, a.balance = .number (.whole n)) ∧
    Disjoint (namedIds "DEBIT 100 NGN FROM ACCOUNT A1 FOR CREDIT TO ACCOUNT A2")
      (namedIds "CREDIT 80 GHS TO ACCOUNT B2 FOR DEBIT FROM ACCOUNT B1") ∧
    ∃ first second first' second' : Entry,
      run (Request.accountsValue twoPairs)
          [.text "DEBIT 100 NGN FROM ACCOUNT A1 FOR CREDIT TO ACCOUNT A2",
            .text "CREDIT 80 GHS TO ACCOUNT B2 FOR DEBIT FROM ACCOUNT B1"]
          ⟨2026, 1, 15, by decide⟩ = .ok [first, second] ∧
      run (Request.accountsValue twoPairs)
          [.text "CREDIT 80 GHS TO ACCOUNT B2 FOR DEBIT FROM ACCOUNT B1",
            .text "DEBIT 100 NGN FROM ACCOUNT A1 FOR CREDIT TO ACCOUNT A2"]
          ⟨2026, 1, 15, by decide⟩ = .ok [second', first'] ∧
      first.verdict = first'.verdict ∧ second.verdict = second'.verdict ∧
      second.accounts = first'.accounts := by
  have hwhole : ∀ a ∈ twoPairs, ∃ n : Int, a.balance = .number (.whole n) := by
    simp only [twoPairs, List.forall_mem_cons]
    exact ⟨⟨_, rfl⟩, ⟨_, rfl⟩, ⟨_, rfl⟩, ⟨_, rfl⟩, ⟨_, rfl⟩, by simp⟩
  have hshaped : ∀ a ∈ twoPairs, a.Shaped := by decide +kernel
  have hread : ofText? "DEBIT 100 NGN FROM ACCOUNT A1 FOR CREDIT TO ACCOUNT A2" =
      some (.ok ⟨.debit, 100, .ngn, "A1", "A2", none⟩) := by decide +kernel
  have hread' : ofText? "CREDIT 80 GHS TO ACCOUNT B2 FOR DEBIT FROM ACCOUNT B1" =
      some (.ok ⟨.credit, 80, .ghs, "B1", "B2", none⟩) := by decide +kernel
  have hdisjoint : Disjoint
      (namedIds "DEBIT 100 NGN FROM ACCOUNT A1 FOR CREDIT TO ACCOUNT A2")
      (namedIds "CREDIT 80 GHS TO ACCOUNT B2 FOR DEBIT FROM ACCOUNT B1") := by
    rw [namedIds_of_ofText? hread, namedIds_of_ofText? hread']
    simp
  have hdebts : ¬ ∃ a ∈ twoPairs, ¬ a.ShortDebt := by
    simp [twoPairs, Account.ShortDebt]
  have hlist := Request.accountsOf_accountsValue hshaped
  exact ⟨hlist, hwhole, hdisjoint,
    (run_comm _ _ _ _ _ hlist hwhole hdisjoint).2.resolve_right fun hlong => hdebts hlong.1⟩

end Ledger

end Remittance
