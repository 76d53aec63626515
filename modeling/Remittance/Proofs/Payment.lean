import Remittance.Proofs.Independence

/-!
# Payments on whole balances

On whole numbers an instruction succeeds exactly when it is arranged and the account that
pays holds the amount, and then it posts its own due (`Verdict.Settles`). Being arranged
(`Arranged`) is all that a payment needs but the money, and no posting changes it. Dues of
amounts add up, and those of opposite payments cancel. So a payment can be taken back
(`run_reversed`) and can be made in parts (`run_split`).
-/

namespace Remittance

open Instruction

/-! ## Dues -/

/-- An undated payment of the same amount that goes back. -/
def Instruction.opposite (i : Instruction) (kind : Kind) : Instruction :=
  ⟨kind, i.amount, i.currency, i.creditAccount, i.debitAccount, none⟩

section

variable {i : Instruction}

theorem Instruction.due_debitAccount (h : i.debitAccount ≠ i.creditAccount) :
    i.due i.debitAccount = -i.amount := by
  rw [due, Pi.single_eq_same, Pi.single_eq_of_ne h, add_zero]

theorem Instruction.due_creditAccount (h : i.debitAccount ≠ i.creditAccount) :
    i.due i.creditAccount = i.amount := by
  rw [due, Pi.single_eq_same, Pi.single_eq_of_ne h.symm, zero_add]

/-- Amounts that are paid one after the other are due together. -/
theorem Instruction.due_add (i : Instruction) (n m : Nat) :
    (fun id => due { i with amount := n } id + due { i with amount := m } id) =
      due { i with amount := n + m } := by
  funext id
  simp only [due, Nat.cast_add, neg_add, Pi.single_add, Pi.add_apply]
  ring

/-- What is left due after a payment and the opposite one. -/
theorem Instruction.due_opposite (i : Instruction) (kind : Kind) :
    (fun id => i.due id + (i.opposite kind).due id) = fun _ => 0 := by
  funext id
  rw [due, due, opposite, Pi.single_neg, Pi.single_neg]
  simp only [Pi.neg_apply]
  ring

end

/-! ## Arranged payments -/

/-- Everything that a payment needs but the money: two different accounts that share its
currency, and no date to wait for. -/
structure Arranged (accounts : List Account) (i : Instruction) (today : Date)
    (debit credit : Account) : Prop where
  compatible : Compatible accounts i.debitAccount i.creditAccount i.currency.code debit credit
  distinct : i.debitAccount ≠ i.creditAccount
  present : ∀ d, i.executeBy = some d → ¬ today < d

section

variable {accounts : List Account} {i : Instruction} {today : Date} {debit credit : Account}

theorem Compatible.post {payer payee code : String}
    (h : Compatible accounts payer payee code debit credit) (due : String → Int) :
    Compatible (Ledger.post due accounts) payer payee code (debit.plus (due payer))
      (credit.plus (due payee)) where
  payer := Ledger.isFirst_post h.payer due
  payee := Ledger.isFirst_post h.payee due
  oneCurrency := h.oneCurrency
  supported := h.supported
  currency := h.currency

theorem Arranged.post (h : Arranged accounts i today debit credit) (due : String → Int) :
    Arranged (Ledger.post due accounts) i today (debit.plus (due i.debitAccount))
      (credit.plus (due i.creditAccount)) :=
  ⟨h.compatible.post due, h.distinct, h.present⟩

theorem Arranged.withAmount (h : Arranged accounts i today debit credit) (n : Nat) :
    Arranged accounts { i with amount := n } today debit credit :=
  ⟨h.compatible, h.distinct, h.present⟩

theorem Arranged.opposite (h : Arranged accounts i today debit credit) (kind : Kind) :
    Arranged accounts (i.opposite kind) today credit debit :=
  ⟨h.compatible.symm, h.distinct.symm, nofun⟩

theorem Arranged.payer_unique {debit' credit' : Account}
    (h : Arranged accounts i today debit credit)
    (h' : Arranged accounts i today debit' credit') : debit' = debit :=
  h'.compatible.payer.unique h.compatible.payer

theorem Account.IsWhole.covers_iff {a : Account} (h : a.IsWhole) {n : Int} :
    a.balance.Covers n ↔ n ≤ a.wholeBalance := by
  rw [h]
  constructor
  · rintro ⟨_, _, hx, hq, hle⟩
    cases hx
    cases hq
    exact_mod_cast hle
  · intro hle
    exact ⟨_, _, rfl, rfl, by exact_mod_cast hle⟩

theorem arranged_iff_payable (hwhole : ∀ a ∈ accounts, a.IsWhole) :
    Arranged accounts i today debit credit ∧ (i.amount : Int) ≤ debit.wholeBalance ↔
      Payable accounts i debit credit ∧ ∀ d, i.executeBy = some d → ¬ today < d := by
  rw [payable_iff]
  constructor
  · rintro ⟨h, hle⟩
    have hcovers := (hwhole _ h.compatible.payer.mem).covers_iff.mpr hle
    exact ⟨⟨h.compatible, h.distinct, hcovers⟩, h.present⟩
  · rintro ⟨⟨hcompatible, hdistinct, hcovers⟩, hpresent⟩
    have hle := (hwhole _ hcompatible.payer.mem).covers_iff.mp hcovers
    exact ⟨⟨hcompatible, hdistinct, hpresent⟩, hle⟩

/-- The account that pays has the amount less after the payment. -/
theorem Arranged.wholeBalance_payer (h : Arranged accounts i today debit credit) :
    (debit.plus (i.due i.debitAccount)).wholeBalance = debit.wholeBalance - i.amount := by
  rw [Account.wholeBalance_plus, due_debitAccount h.distinct, sub_eq_add_neg]

end

/-! ## One payment -/

section

variable {accounts : List Account} {text : String} {today : Date} {outcome : Outcome}
  {i : Instruction}

theorem Decided.code_eq_success_iff_payable (h : Decided accounts text today outcome)
    (hread : ofText? text = some (.ok i)) :
    (Verdict.ofOutcome outcome).code = .success ↔
      ∃ debit credit, Payable accounts i debit credit ∧
        ∀ d, i.executeBy = some d → ¬ today < d := by
  constructor
  · intro hcode
    have hstatus := h.code_eq_success_iff.mp hcode
    rcases h.status_cases with ⟨hfailed, _⟩ | ⟨j, debit, credit, hread', hpay, htiming⟩
    · rw [hfailed] at hstatus
      cases hstatus
    · rcases htiming with ⟨hpending, _⟩ | ⟨_, hdate⟩
      · rw [hpending] at hstatus
        cases hstatus
      · rw [hread] at hread'
        cases hread'
        exact ⟨debit, credit, hpay, hdate⟩
  · rintro ⟨debit, credit, hpay, hdate⟩
    obtain ⟨_, _, _, _, rfl, _⟩ := h.moved_of_payable hread hpay hdate
    rfl

/-- The verdict is a success that moves so much from one id to another. -/
structure Verdict.Pays (v : Verdict) (amount : Nat) (currency : Currency)
    (payer payee : String) : Prop where
  code : v.code = .success
  amount : v.amount = some (amount : Int)
  currency : v.currency = some currency.code
  payer : v.debitAccount = some payer
  payee : v.creditAccount = some payee

/-- What a verdict on an instruction says and posts when all balances are whole. -/
structure Verdict.Settles (v : Verdict) (i : Instruction) (accounts : List Account)
    (today : Date) : Prop where
  success_iff : v.code = .success ↔ ∃ debit credit,
    Arranged accounts i today debit credit ∧ (i.amount : Int) ≤ debit.wholeBalance
  due : v.code = .success → v.due = i.due
  pays : v.code = .success → v.Pays i.amount i.currency i.debitAccount i.creditAccount

theorem Decided.eq_accepted_of_success (h : Decided accounts text today outcome)
    (hread : ofText? text = some (.ok i)) (hcode : (Verdict.ofOutcome outcome).code = .success) :
    ∃ snapshots, outcome = .accepted i .now snapshots := by
  obtain ⟨j, _, _, _, _, _, _, rfl, _⟩ := h.moved_of_success hcode
  have hread' := h.ofText?_of_accepted
  rw [hread] at hread'
  cases hread'
  exact ⟨_, rfl⟩

theorem Decided.settles (h : Decided accounts text today outcome)
    (hwhole : ∀ a ∈ accounts, a.IsWhole) (hread : ofText? text = some (.ok i)) :
    (Verdict.ofOutcome outcome).Settles i accounts today where
  success_iff := by
    rw [h.code_eq_success_iff_payable hread]
    simp only [arranged_iff_payable hwhole]
  due := by
    intro hcode
    obtain ⟨snapshots, rfl⟩ := h.eq_accepted_of_success hread hcode
    exact Ledger.due_moved i snapshots
  pays := by
    intro hcode
    obtain ⟨snapshots, rfl⟩ := h.eq_accepted_of_success hread hcode
    exact ⟨rfl, rfl, rfl, rfl, rfl⟩

end

namespace Ledger

section

variable {submitted : Value} {accounts : List Account}

/-- The text of a success reads as the payment that the verdict tells of. -/
theorem read_of_pays (hlist : Request.accountsOf (some submitted) = .ok accounts)
    {text : String} {today : Date} {verdict : Verdict} {amount : Nat} {currency : Currency}
    {payer payee : String}
    (hverdict : process (Request.payload submitted (.text text)) today = .ok verdict)
    (hpays : verdict.Pays amount currency payer payee) :
    ∃ i, ofText? text = some (.ok i) ∧ i.amount = amount ∧ i.currency = currency ∧
      i.debitAccount = payer ∧ i.creditAccount = payee := by
  rw [process_eq_evaluate (Request.ofValue_payload text hlist)] at hverdict
  obtain ⟨outcome, rfl, hdecided⟩ :=
    decided_of_evaluate (Request.shaped_of_accountsOf hlist) hverdict
  obtain ⟨i, _, _, _, _, _, _, rfl, _⟩ := hdecided.moved_of_success hpays.code
  have hcurrency : i.currency.code = currency.code := Option.some.inj hpays.currency
  refine ⟨i, hdecided.ofText?_of_accepted, ?_, ?_, Option.some.inj hpays.payer,
    Option.some.inj hpays.payee⟩
  · exact Int.natCast_inj.mp (Option.some.inj hpays.amount)
  · have hcode := Currency.ofCode?_code i.currency
    rw [hcurrency, Currency.ofCode?_code] at hcode
    exact (Option.some.inj hcode).symm

/-- The line of an instruction that was read holds the verdict that settles it, and what
that verdict posts, unless the payment is unprintable. -/
theorem step_cases_of_ofText? (hlist : Request.accountsOf (some submitted) = .ok accounts)
    (hwhole : ∀ a ∈ accounts, a.IsWhole) {text : String} {i : Instruction}
    (hread : ofText? text = some (.ok i)) (today : Date) :
    (∃ v, process (Request.payload submitted (.text text)) today = .ok v ∧
      step submitted (.text text) today = .ok ⟨v, post v.due accounts⟩ ∧
      v.Settles i accounts today ∧ ¬ Unprintable accounts i) ∨
    step submitted (.text text) today = .error .unprintable ∧ Unprintable accounts i := by
  have hprocess := map_verdict_step submitted (.text text) today
  rw [← unprintableText_iff hread]
  rcases step_cases hlist text today with ⟨outcome, hstep, hdecided, hshort⟩ | hlong
  · rw [Entry.ofOutcome, record_eq_post hwhole hdecided] at hstep
    rw [hstep] at hprocess
    exact Or.inl ⟨_, hprocess.symm, hstep, hdecided.settles hwhole hread, hshort⟩
  · exact Or.inr hlong

/-- An instruction that was read and is not unprintable has a line. -/
theorem step_of_not_unprintable (hlist : Request.accountsOf (some submitted) = .ok accounts)
    (hwhole : ∀ a ∈ accounts, a.IsWhole) {text : String} {i : Instruction}
    (hread : ofText? text = some (.ok i)) (hshort : ¬ Unprintable accounts i) (today : Date) :
    ∃ v, process (Request.payload submitted (.text text)) today = .ok v ∧
      step submitted (.text text) today = .ok ⟨v, post v.due accounts⟩ ∧
      v.Settles i accounts today := by
  rcases step_cases_of_ofText? hlist hwhole hread today with
    ⟨v, hprocess, hstep, hv, _⟩ | ⟨_, hlong⟩
  · exact ⟨v, hprocess, hstep, hv⟩
  · exact absurd hlong hshort

/-- An unprintable instruction stops a run that begins with it. -/
theorem run_of_unprintable (hlist : Request.accountsOf (some submitted) = .ok accounts)
    (hwhole : ∀ a ∈ accounts, a.IsWhole) {text : String} {i : Instruction}
    (hread : ofText? text = some (.ok i)) (hlong : Unprintable accounts i) (rest : List Value)
    (today : Date) : run submitted (.text text :: rest) today = .error .unprintable := by
  rcases step_cases_of_ofText? hlist hwhole hread today with ⟨_, _, _, _, hshort⟩ | ⟨hstep, _⟩
  · exact absurd hlong hshort
  · exact run_stopped rest hstep

theorem run_pair_of_steps {text text' : String} {today : Date} {v w : Verdict}
    (hstep : step submitted (.text text) today = .ok ⟨v, post v.due accounts⟩)
    (hstep' : step (Request.accountsValue (post v.due accounts)) (.text text') today =
      .ok ⟨w, post w.due (post v.due accounts)⟩) :
    run submitted [.text text, .text text'] today =
      .ok [⟨v, post v.due accounts⟩, ⟨w, post w.due (post v.due accounts)⟩] := by
  rw [run_cons _ hstep, run_cons _ hstep']
  rfl

end

/-! ## Payments taken back -/

/-- After a success the account that was paid can pay the amount back, unless it was below
zero. -/
theorem opposite_payable {accounts : List Account} {i : Instruction} (kind : Kind)
    {today : Date} {v : Verdict} {credit : Account}
    (hv : v.Settles i accounts today) (hcode : v.code = .success)
    (hcredit : IsFirst accounts i.creditAccount credit) (hnonneg : 0 ≤ credit.wholeBalance) :
    ∃ payer payee, Payable (post v.due accounts) (i.opposite kind) payer payee ∧
      ∀ d, (i.opposite kind).executeBy = some d → ¬ today < d := by
  obtain ⟨debit, credit', h, -⟩ := hv.success_iff.mp hcode
  obtain rfl : credit' = credit := h.compatible.payee.unique hcredit
  refine ⟨_, _, (arranged_iff_payable fun _ => isWhole_of_mem_post).mp
    ⟨(h.opposite kind).post v.due, ?_⟩⟩
  show (i.amount : Int) ≤ (credit'.plus (v.due i.creditAccount)).wholeBalance
  rw [Account.wholeBalance_plus, hv.due hcode, due_creditAccount h.distinct]
  exact le_add_of_nonneg_left hnonneg

/-- After a payment on whole balances, a payment of the same amount and currency in the
opposite direction succeeds as well, if the account that was paid was not below zero, and
it leaves the accounts as they were before both. -/
theorem run_reversed (submitted : Value) (accounts : List Account) (text back : String)
    (today : Date) (verdict : Verdict) (kind : Kind) (amount : Nat) (currency : Currency)
    (payer payee : String) (credit : Account) (balance : Int)
    (hlist : Request.accountsOf (some submitted) = .ok accounts)
    (hwhole : ∀ a ∈ accounts, ∃ n : Int, a.balance = .number (.whole n))
    (hverdict : process (Request.payload submitted (.text text)) today = .ok verdict)
    (hpays : verdict.Pays amount currency payer payee)
    (hcredit : IsFirst accounts payee credit)
    (hbalance : credit.balance = .number (.whole balance)) (hnonneg : 0 ≤ balance)
    (hback : ofText? back = some (.ok ⟨kind, amount, currency, payee, payer, none⟩)) :
    ∃ first second, run submitted [.text text, .text back] today = .ok [first, second] ∧
      first.verdict = verdict ∧ second.verdict.Pays amount currency payee payer ∧
      second.accounts = accounts := by
  have hwhole' : ∀ a ∈ accounts, a.IsWhole := fun a ha => Account.isWhole_iff.mpr (hwhole a ha)
  obtain ⟨i, hread, rfl, rfl, rfl, rfl⟩ := read_of_pays hlist hverdict hpays
  have hback : ofText? back = some (.ok (i.opposite kind)) := hback
  have hprocess := map_verdict_step submitted (.text text) today
  obtain ⟨v, hok, hstep, hv, _⟩ | ⟨hstep, _⟩ :=
    step_cases_of_ofText? hlist hwhole' hread today
  swap
  · rw [hstep, hverdict] at hprocess
    cases hprocess
  obtain rfl : v = verdict := Except.ok.inj (hok.symm.trans hverdict)
  have hnonneg' : 0 ≤ credit.wholeBalance := by rwa [Account.wholeBalance, hbalance]
  obtain ⟨_, _, hpay, hdate⟩ :=
    opposite_payable kind hv hpays.code hcredit hnonneg'
  obtain ⟨w, _, hstep', hw⟩ := step_of_not_unprintable (accountsOf_post hlist hwhole' v.due)
    (fun _ => isWhole_of_mem_post) hback (not_unprintable_of_clear hpay.clear_obstacles) today
  have hcode : w.code = .success := by
    obtain ⟨harranged, hle⟩ :=
      (arranged_iff_payable fun _ => isWhole_of_mem_post).mpr ⟨hpay, hdate⟩
    exact hw.success_iff.mpr ⟨_, _, harranged, hle⟩
  refine ⟨_, _, run_pair_of_steps hstep hstep', rfl, hw.pays hcode, ?_⟩
  dsimp only
  rw [hv.due hpays.code, hw.due hcode, post_post, due_opposite, post_zero hwhole']

/-- An account that holds an amount, an empty one, and a second one with the id of the
first. -/
def fullAndEmpty : List Account :=
  [⟨"A1", .number (.whole 500), some "NGN"⟩, ⟨"A2", .number (.whole 0), some "ngn"⟩,
    ⟨"A1", .number (.whole 7), some "USD"⟩]

theorem shortDebt_fullAndEmpty : ∀ a ∈ fullAndEmpty, a.ShortDebt := by
  simp [fullAndEmpty, Account.ShortDebt]

theorem run_reversed_fullAndEmpty :
    ∃ (verdict : Verdict) (credit : Account),
      Request.accountsOf (some (Request.accountsValue fullAndEmpty)) = .ok fullAndEmpty ∧
      (∀ a ∈ fullAndEmpty, ∃ n : Int, a.balance = .number (.whole n)) ∧
      process (Request.payload (Request.accountsValue fullAndEmpty)
          (.text "DEBIT 500 NGN FROM ACCOUNT A1 FOR CREDIT TO ACCOUNT A2"))
        ⟨2026, 1, 15, by decide⟩ = .ok verdict ∧
      verdict.Pays 500 .ngn "A1" "A2" ∧
      IsFirst fullAndEmpty "A2" credit ∧
      credit.balance = .number (.whole 0) ∧
      ofText? "CREDIT 500 NGN TO ACCOUNT A1 FOR DEBIT FROM ACCOUNT A2" =
        some (.ok ⟨.credit, 500, .ngn, "A2", "A1", none⟩) ∧
      ∃ first second,
        run (Request.accountsValue fullAndEmpty)
            [.text "DEBIT 500 NGN FROM ACCOUNT A1 FOR CREDIT TO ACCOUNT A2",
              .text "CREDIT 500 NGN TO ACCOUNT A1 FOR DEBIT FROM ACCOUNT A2"]
            ⟨2026, 1, 15, by decide⟩ = .ok [first, second] ∧
          first.verdict = verdict ∧ second.verdict.Pays 500 .ngn "A2" "A1" ∧
          second.accounts = fullAndEmpty := by
  have hshaped : ∀ a ∈ fullAndEmpty, a.Shaped := by decide +kernel
  have hwhole : ∀ a ∈ fullAndEmpty, ∃ n : Int, a.balance = .number (.whole n) := by
    simp only [fullAndEmpty, List.forall_mem_cons]
    exact ⟨⟨_, rfl⟩, ⟨_, rfl⟩, ⟨_, rfl⟩, by simp⟩
  have hlist := Request.accountsOf_accountsValue hshaped
  have hread : ofText? "DEBIT 500 NGN FROM ACCOUNT A1 FOR CREDIT TO ACCOUNT A2" =
      some (.ok ⟨.debit, 500, .ngn, "A1", "A2", none⟩) := by decide +kernel
  have hback : ofText? "CREDIT 500 NGN TO ACCOUNT A1 FOR DEBIT FROM ACCOUNT A2" =
      some (.ok ⟨.credit, 500, .ngn, "A2", "A1", none⟩) := by decide +kernel
  have hcredit : IsFirst fullAndEmpty "A2" ⟨"A2", .number (.whole 0), some "ngn"⟩ :=
    find?_eq_some_iff_isFirst.mp rfl
  obtain ⟨verdict, hverdict, _, hsettles⟩ := step_of_not_unprintable hlist
    (fun a ha => Account.isWhole_iff.mpr (hwhole a ha)) hread
      (not_unprintable shortDebt_fullAndEmpty) ⟨2026, 1, 15, by decide⟩
  have hcode : (process (Request.payload (Request.accountsValue fullAndEmpty)
      (.text "DEBIT 500 NGN FROM ACCOUNT A1 FOR CREDIT TO ACCOUNT A2"))
        ⟨2026, 1, 15, by decide⟩).map Verdict.code = .ok .success := by decide +kernel
  rw [hverdict] at hcode
  have hpays := hsettles.pays (Except.ok.inj hcode)
  exact ⟨verdict, _, hlist, hwhole, hverdict, hpays, hcredit, rfl, hback,
    run_reversed _ _ _ _ _ _ _ _ _ _ _ _ _ hlist hwhole hverdict hpays hcredit rfl le_rfl hback⟩

/-! ## Payments in parts -/

/-- The whole amount is there exactly when the one part is there, and the other part once
the one has been paid. -/
theorem parts_success_iff {accounts : List Account} {i : Instruction} {n m : Nat} {today : Date}
    {u v w : Verdict} (hu : u.Settles { i with amount := n + m } accounts today)
    (hv : v.Settles { i with amount := n } accounts today)
    (hw : w.Settles { i with amount := m } (post v.due accounts) today) :
    u.code = .success ↔ v.code = .success ∧ w.code = .success := by
  constructor
  · intro hcode
    obtain ⟨debit, credit, h, hle⟩ := hu.success_iff.mp hcode
    have hpart := h.withAmount n
    have hleft := hpart.wholeBalance_payer
    dsimp only at hle hleft
    push_cast at hle
    have hcode' : v.code = .success :=
      hv.success_iff.mpr ⟨debit, credit, hpart, by dsimp only; omega⟩
    refine ⟨hcode', hw.success_iff.mpr ⟨_, _, (h.withAmount m).post _, ?_⟩⟩
    rw [hv.due hcode']
    dsimp only
    omega
  · rintro ⟨hcode, hcode'⟩
    obtain ⟨debit, credit, h, hle⟩ := hv.success_iff.mp hcode
    obtain ⟨debit', credit', h', hle'⟩ := hw.success_iff.mp hcode'
    have hdebit := ((h.withAmount m).post v.due).payer_unique h'
    rw [hdebit, hv.due hcode] at hle'
    have hleft := h.wholeBalance_payer
    refine hu.success_iff.mpr ⟨debit, credit, h.withAmount (n + m), ?_⟩
    dsimp only at hle' hleft ⊢
    push_cast
    omega

/-- Paying a part does not make another part unprintable. -/
theorem not_unprintable_post {accounts : List Account} (hwhole : ∀ a ∈ accounts, a.IsWhole)
    {i : Instruction} {n m : Nat} {today : Date} {v : Verdict}
    (hv : v.Settles { i with amount := n } accounts today)
    (h : ¬ Unprintable accounts { i with amount := n }) :
    ¬ Unprintable (post v.due accounts) { i with amount := m } := by
  rintro ⟨debit', credit', k, hcompatible, hdistinct, hbalance, hneg, hlong⟩
  by_cases hcode : v.code = .success
  · -- what is left on the account that paid is not below zero
    obtain ⟨debit, credit, harranged, hle⟩ := hv.success_iff.mp hcode
    have hleft := harranged.wholeBalance_payer
    obtain rfl : debit' = debit.plus (v.due i.debitAccount) :=
      hcompatible.payer.unique (isFirst_post harranged.compatible.payer v.due)
    have hk : (debit.plus (v.due i.debitAccount)).wholeBalance = k := by
      rw [Account.wholeBalance, hbalance]
    rw [hv.due hcode] at hk
    dsimp only at hleft hle hk
    omega
  · rw [Verdict.due_of_code_ne hcode, post_zero hwhole] at hcompatible
    exact h ⟨debit', credit', k, hcompatible, hdistinct, hbalance, hneg, hlong⟩

/-- A payment on whole balances succeeds exactly when both parts of it succeed one after
the other, and then it leaves the same accounts behind. When a debt is too long to be
written, the whole and the parts may have no verdict, neither of them. -/
theorem run_split (submitted : Value) (accounts : List Account) (text part part' : String)
    (i : Instruction) (n m : Nat) (today : Date)
    (hlist : Request.accountsOf (some submitted) = .ok accounts)
    (hwhole : ∀ a ∈ accounts, ∃ n : Int, a.balance = .number (.whole n))
    (hread : ofText? text = some (.ok { i with amount := n + m }))
    (hpart : ofText? part = some (.ok { i with amount := n }))
    (hpart' : ofText? part' = some (.ok { i with amount := m })) :
    (∃ entry first second : Entry, run submitted [.text text] today = .ok [entry] ∧
      run submitted [.text part, .text part'] today = .ok [first, second] ∧
      (entry.verdict.code = .success ↔
        first.verdict.code = .success ∧ second.verdict.code = .success) ∧
      (entry.verdict.code = .success → second.accounts = entry.accounts)) ∨
    (∃ a ∈ accounts, ¬ a.ShortDebt) ∧
      run submitted [.text text] today = .error .unprintable ∧
      run submitted [.text part, .text part'] today = .error .unprintable := by
  have hwhole' : ∀ a ∈ accounts, a.IsWhole := fun a ha => Account.isWhole_iff.mpr (hwhole a ha)
  -- whether a payment is unprintable does not depend on its amount
  by_cases hlong : Unprintable accounts i
  · refine Or.inr ⟨?_, run_of_unprintable hlist hwhole' hread hlong _ today,
      run_of_unprintable hlist hwhole' hpart hlong _ today⟩
    by_contra! hdebts
    exact not_unprintable hdebts hlong
  · obtain ⟨u, _, hstep, hu⟩ := step_of_not_unprintable hlist hwhole' hread hlong today
    obtain ⟨v, _, hstep', hv⟩ := step_of_not_unprintable hlist hwhole' hpart hlong today
    obtain ⟨w, _, hstep'', hw⟩ := step_of_not_unprintable (accountsOf_post hlist hwhole' v.due)
      (fun _ => isWhole_of_mem_post) hpart' (not_unprintable_post hwhole' hv hlong) today
    have hiff := parts_success_iff hu hv hw
    refine Or.inl ⟨⟨u, post u.due accounts⟩, _, _, run_cons _ hstep,
      run_pair_of_steps hstep' hstep'', hiff, ?_⟩
    intro hcode
    obtain ⟨hfirst, hsecond⟩ := hiff.mp hcode
    dsimp only
    rw [hu.due hcode, hv.due hfirst, hw.due hsecond, post_post, due_add]

/-- All that an account holds is paid at once and in two parts. -/
theorem run_split_fullAndEmpty :
    Request.accountsOf (some (Request.accountsValue fullAndEmpty)) = .ok fullAndEmpty ∧
    (∀ a ∈ fullAndEmpty, ∃ n : Int, a.balance = .number (.whole n)) ∧
    ofText? "DEBIT 500 NGN FROM ACCOUNT A1 FOR CREDIT TO ACCOUNT A2" =
      some (.ok ⟨.debit, 200 + 300, .ngn, "A1", "A2", none⟩) ∧
    ofText? "DEBIT 200 NGN FROM ACCOUNT A1 FOR CREDIT TO ACCOUNT A2" =
      some (.ok ⟨.debit, 200, .ngn, "A1", "A2", none⟩) ∧
    ofText? "DEBIT 300 NGN FROM ACCOUNT A1 FOR CREDIT TO ACCOUNT A2" =
      some (.ok ⟨.debit, 300, .ngn, "A1", "A2", none⟩) ∧
    ∃ entry first second : Entry,
      run (Request.accountsValue fullAndEmpty)
          [.text "DEBIT 500 NGN FROM ACCOUNT A1 FOR CREDIT TO ACCOUNT A2"]
          ⟨2026, 1, 15, by decide⟩ = .ok [entry] ∧
      run (Request.accountsValue fullAndEmpty)
          [.text "DEBIT 200 NGN FROM ACCOUNT A1 FOR CREDIT TO ACCOUNT A2",
            .text "DEBIT 300 NGN FROM ACCOUNT A1 FOR CREDIT TO ACCOUNT A2"]
          ⟨2026, 1, 15, by decide⟩ = .ok [first, second] ∧
      entry.verdict.code = .success ∧ first.verdict.code = .success ∧
      second.verdict.code = .success ∧ second.accounts = entry.accounts := by
  have hshaped : ∀ a ∈ fullAndEmpty, a.Shaped := by decide +kernel
  have hwhole : ∀ a ∈ fullAndEmpty, ∃ n : Int, a.balance = .number (.whole n) := by
    simp only [fullAndEmpty, List.forall_mem_cons]
    exact ⟨⟨_, rfl⟩, ⟨_, rfl⟩, ⟨_, rfl⟩, by simp⟩
  have hlist := Request.accountsOf_accountsValue hshaped
  have hread : ofText? "DEBIT 500 NGN FROM ACCOUNT A1 FOR CREDIT TO ACCOUNT A2" =
      some (.ok ⟨.debit, 200 + 300, .ngn, "A1", "A2", none⟩) := by decide +kernel
  have hpart : ofText? "DEBIT 200 NGN FROM ACCOUNT A1 FOR CREDIT TO ACCOUNT A2" =
      some (.ok ⟨.debit, 200, .ngn, "A1", "A2", none⟩) := by decide +kernel
  have hpart' : ofText? "DEBIT 300 NGN FROM ACCOUNT A1 FOR CREDIT TO ACCOUNT A2" =
      some (.ok ⟨.debit, 300, .ngn, "A1", "A2", none⟩) := by decide +kernel
  have hdebts : ¬ ∃ a ∈ fullAndEmpty, ¬ a.ShortDebt := by
    simpa using shortDebt_fullAndEmpty
  obtain ⟨entry, first, second, honce, htwice, hiff, haccounts⟩ :=
    (run_split (Request.accountsValue fullAndEmpty) fullAndEmpty _ _ _
      ⟨.debit, 500, .ngn, "A1", "A2", none⟩ 200 300 ⟨2026, 1, 15, by decide⟩ hlist hwhole
      hread hpart hpart').resolve_right fun hlong => hdebts hlong.1
  have hcode : (run (Request.accountsValue fullAndEmpty)
      [.text "DEBIT 500 NGN FROM ACCOUNT A1 FOR CREDIT TO ACCOUNT A2"]
        ⟨2026, 1, 15, by decide⟩).map (List.map fun entry => entry.verdict.code) =
      .ok [.success] := by decide +kernel
  rw [honce] at hcode
  have hsuccess : entry.verdict.code = .success := (List.cons.inj (Except.ok.inj hcode)).1
  obtain ⟨hfirst, hsecond⟩ := hiff.mp hsuccess
  exact ⟨hlist, hwhole, hread, hpart, hpart', entry, first, second, honce, htwice,
    hsuccess, hfirst, hsecond, haccounts hsuccess⟩

end Ledger

end Remittance
