import Remittance.Proofs.Lines

/-!
# Conservation

Over whole balances a verdict is recorded by posting what it pays and takes
(`record_eq_post`), and a transfer leaves every currency with what it had
(`sumWhere_record`). By induction over the texts the lines of a run post what all their
verdicts pay and take (`lines_posted`), and so its accounts can be audited against the
lines of its book (`run_audited`).
-/

namespace Remittance

open Instruction

namespace Verdict

/-- What a verdict pays to an id: the amount of a payment that succeeded. -/
def paidTo (v : Verdict) (id : String) : Int :=
  if v.code = .success ∧ v.creditAccount = some id then v.amount.getD 0 else 0

/-- What a verdict takes from an id. -/
def takenFrom (v : Verdict) (id : String) : Int :=
  if v.code = .success ∧ v.debitAccount = some id then v.amount.getD 0 else 0

/-- What is due to an id after a verdict. -/
def due (v : Verdict) (id : String) : Int :=
  v.paidTo id - v.takenFrom id

theorem due_of_code_ne {v : Verdict} (h : v.code ≠ .success) : v.due = fun _ => 0 := by
  funext id
  rw [due, paidTo, takenFrom, if_neg fun hv => h hv.1, if_neg fun hv => h hv.1, sub_zero]

end Verdict

/-- What a payment is due to every id. -/
def Instruction.due (i : Instruction) (id : String) : Int :=
  (Pi.single i.debitAccount (-(i.amount : Int)) : String → Int) id +
    (Pi.single i.creditAccount (i.amount : Int) : String → Int) id

namespace Ledger

theorem post_due (i : Instruction) (accounts : List Account) :
    post i.due accounts =
      post (Pi.single i.creditAccount (i.amount : Int))
        (post (Pi.single i.debitAccount (-(i.amount : Int))) accounts) :=
  (post_post _ _ _).symm

/-! ## One verdict -/

theorem balanceBefore_of_whole {s : Snapshot} {a : Account} (hs : s.Reports a)
    (ha : a.IsWhole) : s.balanceBefore = .whole a.wholeBalance := by
  rw [hs.balanceBefore]
  have hbalance := hs.balance
  rw [ha] at hbalance
  exact (Value.number.inj hbalance).symm

theorem record_transfer {accounts : List Account} (hwhole : ∀ a ∈ accounts, a.IsWhole)
    {i : Instruction} {debit credit : Account} (hpay : Payable accounts i debit credit)
    {s t : Snapshot} (hs : s.Reports debit) (ht : t.Reports credit) {x y : Number}
    (hx : s.balanceBefore.minus? i.amount = some x)
    (hy : t.balanceBefore.plus? i.amount = some y) :
    record accounts [{ s with balance := x }, { t with balance := y }] = post i.due accounts := by
  rw [balanceBefore_of_whole hs (hwhole _ hpay.payer.mem)] at hx
  rw [balanceBefore_of_whole ht (hwhole _ hpay.payee.mem)] at hy
  cases hx
  cases hy
  -- the first write leaves the account that is paid as it was, for the ids differ
  have hcredit := isFirst_post hpay.payee (Pi.single i.debitAccount (-(i.amount : Int)))
  have hother : (Pi.single i.debitAccount (-(i.amount : Int)) : String → Int) i.creditAccount =
      0 := by
    rw [Pi.single_apply, if_neg hpay.distinct.symm]
  rw [hother] at hcredit
  have hpaid := setBalance_eq_post hcredit (fun _ => isWhole_of_mem_post) i.amount
  rw [Account.wholeBalance_plus, add_zero] at hpaid
  rw [record_cons, record_cons]
  show setBalance (setBalance accounts s.id _) t.id _ = _
  rw [hs.id, hpay.payer.id_eq, ht.id, hpay.payee.id_eq, post_due, ← hpaid,
    ← setBalance_eq_post hpay.payer hwhole]
  rfl

theorem due_moved (i : Instruction) (snapshots : List Snapshot) :
    (Verdict.ofOutcome (.accepted i .now snapshots)).due = i.due := by
  funext id
  simp only [Instruction.due, Verdict.due, Verdict.paidTo, Verdict.takenFrom, Verdict.ofOutcome,
    Verdict.ofInstruction, Timing.code, true_and, Option.some.injEq, Option.getD_some,
    Pi.single_apply, eq_comm (b := id)]
  split <;> split <;> ring

/-- Recording a verdict posts what it pays and takes. -/
theorem record_eq_post {accounts : List Account} (hwhole : ∀ a ∈ accounts, a.IsWhole)
    {text : String} {today : Date} {outcome : Outcome} (h : Decided accounts text today outcome) :
    record accounts (Verdict.ofOutcome outcome).accounts =
      post (Verdict.ofOutcome outcome).due accounts := by
  by_cases hcode : (Verdict.ofOutcome outcome).code = .success
  · obtain ⟨i, debit, credit, s, t, x, y, rfl, hpay, hs, ht, hx, hy⟩ := h.moved_of_success hcode
    rw [due_moved]
    exact record_transfer hwhole hpay hs ht hx hy
  · rw [record_of_code_ne h hcode, Verdict.due_of_code_ne hcode, post_zero hwhole]

/-- Recording a verdict keeps the sum over any kind of currencies. -/
theorem sumWhere_record {accounts : List Account} (hwhole : ∀ a ∈ accounts, a.IsWhole)
    {text : String} {today : Date} {outcome : Outcome} (h : Decided accounts text today outcome)
    (keep : String → Bool) :
    sumWhere keep (record accounts (Verdict.ofOutcome outcome).accounts) =
      sumWhere keep accounts := by
  by_cases hcode : (Verdict.ofOutcome outcome).code = .success
  · obtain ⟨i, debit, credit, s, t, x, y, rfl, hpay, hs, ht, hx, hy⟩ := h.moved_of_success hcode
    have hcredit := isFirst_post hpay.payee (Pi.single i.debitAccount (-(i.amount : Int)))
    show sumWhere keep (record accounts [_, _]) = _
    rw [record_transfer hwhole hpay hs ht hx hy, post_due,
      sumWhere_post_single hcredit (fun _ => isWhole_of_mem_post),
      sumWhere_post_single hpay.payer hwhole, Account.currencyCode_plus, hpay.oneCurrency]
    split <;> ring
  · rw [record_of_code_ne h hcode]

/-! ## Runs -/

/-- What the verdicts of a book pay to an id. -/
def paidTo (entries : List Entry) (id : String) : Int :=
  (entries.map fun entry => entry.verdict.paidTo id).sum

/-- What the verdicts of a book take from an id. -/
def takenFrom (entries : List Entry) (id : String) : Int :=
  (entries.map fun entry => entry.verdict.takenFrom id).sum

/-- Every line that is no success leaves the accounts as they were before it. -/
def OnlySuccessMoves (accounts : List Account) (entries : List Entry) : Prop :=
  ∀ earlier entry later, entries = earlier ++ entry :: later →
    entry.verdict.code ≠ .success → entry.accounts = closing accounts earlier

theorem onlySuccessMoves_cons {accounts : List Account} {entry : Entry} {entries : List Entry}
    (hentry : entry.verdict.code ≠ .success → entry.accounts = accounts)
    (h : OnlySuccessMoves entry.accounts entries) : OnlySuccessMoves accounts (entry :: entries) := by
  intro earlier line later hsplit hcode
  cases earlier with
  | nil =>
      obtain ⟨rfl, -⟩ := List.cons.inj hsplit
      exact hentry hcode
  | cons first earlier =>
      obtain ⟨rfl, hrest⟩ := List.cons.inj hsplit
      exact h earlier line later hrest hcode

/-- Accounts that a shape check accepts and that all hold whole numbers. -/
def WholeBook (accounts : List Account) : Prop :=
  ∀ a ∈ accounts, a.Shaped ∧ a.IsWhole

theorem WholeBook.shaped {accounts : List Account} (h : WholeBook accounts) :
    ∀ a ∈ accounts, a.Shaped :=
  fun a ha => (h a ha).1

theorem WholeBook.post {accounts : List Account} (h : WholeBook accounts) (due : String → Int) :
    WholeBook (post due accounts) := by
  intro a ha
  have hwhole := isWhole_of_mem_post ha
  have hcurrency : a.currency ∈ accounts.map Account.currency := by
    rw [← map_currency_post due]
    exact List.mem_map_of_mem ha
  obtain ⟨b, hb, heq⟩ := List.mem_map.mp hcurrency
  obtain ⟨text, htext⟩ := (h.shaped b hb).currency
  exact ⟨⟨⟨_, hwhole, rfl⟩, text, heq.symm.trans htext⟩, hwhole⟩

/-- Whole balances are accepted again after any posting. -/
theorem accountsOf_post {submitted : Value} {accounts : List Account}
    (hlist : Request.accountsOf (some submitted) = .ok accounts)
    (hwhole : ∀ a ∈ accounts, a.IsWhole) (due : String → Int) :
    Request.accountsOf (some (Request.accountsValue (post due accounts))) =
      .ok (post due accounts) := by
  have hbook : WholeBook accounts :=
    fun a ha => ⟨Request.shaped_of_accountsOf hlist a ha, hwhole a ha⟩
  exact Request.accountsOf_accountsValue (hbook.post due).shaped

/-- The lines post what all their verdicts pay and take, and keep the sum over any kind of
currencies. -/
structure Posted (accounts : List Account) (entries : List Entry) : Prop where
  closing : closing accounts entries =
    post (fun id => paidTo entries id - takenFrom entries id) accounts
  sums : ∀ keep, sumWhere keep (Ledger.closing accounts entries) = sumWhere keep accounts
  moves : OnlySuccessMoves accounts entries

theorem posted_nil {accounts : List Account} (hwhole : ∀ a ∈ accounts, a.IsWhole) :
    Posted accounts [] where
  closing := (post_zero hwhole).symm
  sums := fun _ => rfl
  moves := by
    intro earlier entry later hsplit
    cases earlier <;> cases hsplit

theorem posted_cons {accounts : List Account} (hwhole : ∀ a ∈ accounts, a.IsWhole)
    {text : String} {today : Date} {outcome : Outcome} (h : Decided accounts text today outcome)
    {entries : List Entry} (hrest : Posted (Entry.ofOutcome accounts outcome).accounts entries) :
    Posted accounts (Entry.ofOutcome accounts outcome :: entries) where
  closing := by
    have hpost : (Entry.ofOutcome accounts outcome).accounts = _ := record_eq_post hwhole h
    rw [Ledger.closing, hrest.closing, hpost, post_post]
    refine congrArg (fun due => post due accounts) (funext fun id => ?_)
    simp only [paidTo, takenFrom, List.map_cons, List.sum_cons, Verdict.due, Entry.ofOutcome]
    ring
  sums := fun keep => (hrest.sums keep).trans (sumWhere_record hwhole h keep)
  moves := onlySuccessMoves_cons (record_of_code_ne h) hrest.moves

theorem lines_posted (texts : List String) (today : Date) {submitted : Value}
    {accounts : List Account} (hlist : Request.accountsOf (some submitted) = .ok accounts)
    (hwhole : ∀ a ∈ accounts, a.IsWhole) :
    Posted accounts (lines submitted (texts.map .text) today) := by
  induction texts generalizing submitted accounts with
  | nil => exact posted_nil hwhole
  | cons text texts ih =>
      rw [List.map_cons]
      rcases step_cases hlist text today with ⟨outcome, hstep, hdecided, _⟩ | ⟨hstep, _⟩
      · have hpost : (Entry.ofOutcome accounts outcome).accounts = _ :=
          record_eq_post hwhole hdecided
        rw [lines_cons _ hstep]
        -- the accounts of the line pass the shape check again, so the run goes on with them
        refine posted_cons hwhole hdecided (ih ?_ ?_)
        · rw [hpost]
          exact accountsOf_post hlist hwhole _
        · rw [hpost]
          exact fun _ => isWhole_of_mem_post
      · rw [lines_stopped _ hstep]
        exact posted_nil hwhole

/-- No list over whole balances is ever refused. -/
theorem not_stopsRefused (texts : List String) (today : Date) {submitted : Value}
    {accounts : List Account} (hlist : Request.accountsOf (some submitted) = .ok accounts)
    (hwhole : ∀ a ∈ accounts, a.IsWhole) : ¬ StopsRefused submitted accounts texts today := by
  rintro ⟨violations, hrefused, _⟩
  rw [(lines_posted texts today hlist hwhole).closing, accountsOf_post hlist hwhole] at hrefused
  cases hrefused

/-! ## Audit -/

def total (accounts : List Account) : Int :=
  (accounts.map Account.wholeBalance).sum

def totalIn (code : String) (accounts : List Account) : Int :=
  total (accounts.filter (·.currencyCode == code))

/-- The accounts at the end agree with the book: an account that is the first with
its id has what it had, plus all that was paid to the id, less all that was taken from
it; a later one is as it was; and no currency has gained or lost anything. -/
structure Audited (accounts : List Account) (entries : List Entry) (final : List Account) :
    Prop where
  ids : final.map Account.id = accounts.map Account.id
  currencies : final.map Account.currency = accounts.map Account.currency
  whole : ∀ a ∈ final, ∃ n : Int, a.balance = .number (.whole n)
  first : ∀ (k : Nat) (a : Account), accounts[k]? = some a →
    a.id ∉ (accounts.take k).map Account.id →
      ∃ b, final[k]? = some b ∧
        b.wholeBalance = a.wholeBalance + paidTo entries a.id - takenFrom entries a.id
  later : ∀ (k : Nat) (a : Account), accounts[k]? = some a →
    a.id ∈ (accounts.take k).map Account.id → final[k]? = some a
  total : total final = total accounts
  totalIn : ∀ code, totalIn code final = totalIn code accounts

/-- Whatever lines a run over whole balances has written, its accounts stand up to an audit
by them, and a line that is no success changes nothing. There is a line for every text,
unless one of them is an unprintable payment by then; while the debts can be written, none
is. -/
theorem run_audited (submitted : Value) (accounts : List Account) (texts : List String)
    (today : Date) (hlist : Request.accountsOf (some submitted) = .ok accounts)
    (hwhole : ∀ a ∈ accounts, ∃ n : Int, a.balance = .number (.whole n)) :
    ∃ entries, entries = lines submitted (texts.map .text) today ∧
      Audited accounts entries (closing accounts entries) ∧
      (∀ earlier entry later, entries = earlier ++ entry :: later →
        entry.verdict.code ≠ .success → entry.accounts = closing accounts earlier) ∧
      (run submitted (texts.map .text) today = .ok entries ∧ entries.length = texts.length ∨
        StopsUnprintable submitted accounts texts today) ∧
      ((∀ a ∈ accounts, a.ShortDebt) → run submitted (texts.map .text) today = .ok entries) := by
  have hwhole' : ∀ a ∈ accounts, a.IsWhole := fun a ha => Account.isWhole_iff.mpr (hwhole a ha)
  obtain ⟨hclosing, hsums, hmoves⟩ := lines_posted texts today hlist hwhole'
  have hrefused := not_stopsRefused texts today hlist hwhole'
  refine ⟨_, rfl, ?_, hmoves, ?_, fun hdebts =>
    (run_eq_lines_or_refused texts today hlist hdebts).resolve_right hrefused⟩
  · refine ⟨?_, ?_, ?_, ?_, ?_, ?_, fun code => hsums (· == code)⟩
    · rw [hclosing, map_id_post]
    · rw [hclosing, map_currency_post]
    · intro a ha
      rw [hclosing] at ha
      exact Account.isWhole_iff.mp (isWhole_of_mem_post ha)
    · intro k a hk hfirst
      rw [hclosing, getElem?_post, hk, Option.map_some, if_neg hfirst]
      exact ⟨_, rfl, (add_sub_assoc _ _ _).symm⟩
    · intro k a hk hlater
      have ha := hwhole' a (List.mem_of_getElem? hk)
      rw [hclosing, getElem?_post, hk, Option.map_some, if_pos hlater, ha.plus_zero]
    · have hall := hsums fun _ => true
      rwa [sumWhere, sumWhere, List.filter_true, List.filter_true] at hall
  · rcases run_cases texts today hlist with hrun | hstops | hstops
    · have hlength := (run_eq_ok_iff.mp hrun).2
      rw [List.length_map] at hlength
      exact Or.inl ⟨hrun, hlength⟩
    · exact absurd hstops hrefused
    · exact Or.inr hstops

/-- Three accounts, two of them with one id. -/
def smallBook : List Account :=
  [⟨"A1", .number (.whole 500), some "NGN"⟩, ⟨"A2", .number (.whole 50), some "ngn"⟩,
    ⟨"A1", .number (.whole 7), some "USD"⟩]

/-- A transfer, the same one backwards, and one of more than there is. -/
def smallRun : List String :=
  ["DEBIT 100 NGN FROM ACCOUNT A1 FOR CREDIT TO ACCOUNT A2",
    "CREDIT 30 NGN TO ACCOUNT A1 FOR DEBIT FROM ACCOUNT A2",
    "DEBIT 1000 NGN FROM ACCOUNT A1 FOR CREDIT TO ACCOUNT A2"]

theorem run_audited_smallRun :
    Request.accountsOf (some (Request.accountsValue smallBook)) = .ok smallBook ∧
    (∀ a ∈ smallBook, ∃ n : Int, a.balance = .number (.whole n)) ∧
    ∃ entries, run (Request.accountsValue smallBook) (smallRun.map .text)
        ⟨2026, 1, 15, by decide⟩ = .ok entries ∧
      Audited smallBook entries (closing smallBook entries) ∧
      ∀ earlier entry later, entries = earlier ++ entry :: later →
        entry.verdict.code ≠ .success → entry.accounts = closing smallBook earlier := by
  have hwhole : ∀ a ∈ smallBook, ∃ n : Int, a.balance = .number (.whole n) := by
    simp only [smallBook, List.forall_mem_cons]
    exact ⟨⟨_, rfl⟩, ⟨_, rfl⟩, ⟨_, rfl⟩, by simp⟩
  have hshaped : ∀ a ∈ smallBook, a.Shaped := by
    simp only [smallBook, List.forall_mem_cons]
    exact ⟨⟨⟨_, rfl, rfl⟩, _, rfl⟩, ⟨⟨_, rfl, rfl⟩, _, rfl⟩, ⟨⟨_, rfl, rfl⟩, _, rfl⟩, by simp⟩
  have hdebts : ∀ a ∈ smallBook, a.ShortDebt := by
    simp [smallBook, Account.ShortDebt]
  have hlist := Request.accountsOf_accountsValue hshaped
  obtain ⟨entries, _, haudited, hmoves, _, hrun⟩ := run_audited _ _ smallRun _ hlist hwhole
  exact ⟨hlist, hwhole, entries, hrun hdebts, haudited, hmoves⟩

end Ledger

end Remittance
