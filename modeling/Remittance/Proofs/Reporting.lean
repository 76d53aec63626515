import Remittance.Proofs.Readmission

/-!
# The accounts that a verdict reports

A sentence of a recognised kind names two accounts, whatever else is wrong with it. Every
verdict on it reports the first account with either id, the one that pays first and none
twice (`Decided.portrays_named`): the stage at which it failed does not matter. Only a
success reports balances that are not those of the accounts (`process_reports`).
-/

namespace Remittance

open Instruction

namespace Instruction

theorem kind_unique {tokens : List String} {kind kind' : Kind}
    (h : Stands tokens 0 kind.word) (h' : Stands tokens 0 kind'.word) : kind = kind' := by
  rw [← kindOf?_eq_some_iff] at h h'
  rw [h] at h'
  exact Option.some.inj h'

/-- The ids of an instruction are the tokens in the places of the two accounts. -/
theorem ids_of_ofText? {text : String} {kind : Kind} {i : Instruction}
    (hkind : Stands (tokens text) 0 kind.word) (h : ofText? text = some (.ok i)) :
    payerToken kind (tokens text) = some i.debitAccount ∧
      payeeToken kind (tokens text) = some i.creditAccount := by
  have hsentence := sentence_of_ofText? h
  rw [kind_unique hkind hsentence.kind]
  exact ⟨hsentence.payer.1, hsentence.payee.1⟩

end Instruction

/-! ## Named accounts -/

namespace Account

/-- The first account with an id, if an id is given and an account has it. -/
def firstWith (accounts : List Account) : Option String → List Account
  | none => []
  | some id => (accounts.filter fun a => a.id == id).take 1

/-- The accounts that two ids name: the first with the one id, then the first with the
other, if it is another id. -/
def named (accounts : List Account) (payer payee : Option String) : List Account :=
  firstWith accounts payer ++ if payee = payer then [] else firstWith accounts payee

theorem firstWith_eq_toList (accounts : List Account) (id : Option String) :
    firstWith accounts id = (find? accounts id).toList := by
  cases id with
  | none => rfl
  | some id => rw [firstWith, List.take_one, List.head?_filter, find?, Option.bind_some]

theorem id_of_mem_firstWith {accounts : List Account} {id : Option String} {a : Account}
    (h : a ∈ firstWith accounts id) : id = some a.id := by
  rw [firstWith_eq_toList, Option.mem_toList] at h
  cases id with
  | none => cases h
  | some id => rw [(of_find?_eq_some h).1]

theorem length_firstWith_le (accounts : List Account) (id : Option String) :
    (firstWith accounts id).length ≤ 1 := by
  rw [firstWith_eq_toList]
  exact Option.length_toList_le

theorem length_named_le (accounts : List Account) (payer payee : Option String) :
    (named accounts payer payee).length ≤ 2 := by
  have hpayer := length_firstWith_le accounts payer
  have hpayee := length_firstWith_le accounts payee
  rw [named, List.length_append]
  split
  · exact le_trans hpayer one_le_two
  · exact add_le_add hpayer hpayee

theorem nodup_map_id_firstWith (accounts : List Account) (id : Option String) :
    ((firstWith accounts id).map Account.id).Nodup := by
  rw [firstWith_eq_toList, ← Option.toList_map]
  exact Option.toList_nodup _

/-- No id is named twice. -/
theorem nodup_map_id_named (accounts : List Account) (payer payee : Option String) :
    ((named accounts payer payee).map Account.id).Nodup := by
  rw [named]
  split
  · rw [List.append_nil]
    exact nodup_map_id_firstWith accounts payer
  · rename_i hne
    rw [List.map_append, List.nodup_append]
    refine ⟨nodup_map_id_firstWith _ _, nodup_map_id_firstWith _ _, ?_⟩
    simp only [List.forall_mem_map]
    intro a ha b hb hid
    rw [id_of_mem_firstWith ha, id_of_mem_firstWith hb, hid] at hne
    exact hne rfl

end Account

theorem Selection.reported_eq_named (accounts : List Account) (payer payee : Option String) :
    reported accounts payer payee = Account.named accounts payer payee := by
  rw [reported, Account.named, Account.firstWith_eq_toList, Account.firstWith_eq_toList]
  refine congrArg _ ?_
  cases hpayee : Account.find? accounts payee with
  | none => simp
  | some a =>
      have hmem : a ∈ Account.firstWith accounts payee := by
        rw [Account.firstWith_eq_toList, hpayee]
        exact List.mem_singleton_self a
      have hid : payee = some a.id := Account.id_of_mem_firstWith hmem
      rw [hid]
      by_cases hsame : some a.id = payer <;> simp [Option.filter, hsame]

/-! ## Reports -/

/-- The snapshot shows the account: its id, its currency in capitals, and as the balance
before what the account holds. -/
structure Snapshot.Portrays (s : Snapshot) (a : Account) : Prop where
  id : s.id = a.id
  currency : ∃ text, a.currency = some text ∧ s.currency = Text.upper text
  balanceBefore : a.balance = .number s.balanceBefore

theorem Snapshot.Reports.portrays {s : Snapshot} {a : Account} (h : s.Reports a)
    (ha : a.Shaped) (balance : Number) : Portrays { s with balance } a := by
  obtain ⟨text, htext⟩ := ha.currency
  refine ⟨h.id, ⟨text, htext, ?_⟩, ?_⟩
  · show s.currency = Text.upper text
    rw [h.currency, Account.currencyCode, htext]
    rfl
  · rw [h.balanceBefore]
    exact h.balance

section

variable {accounts : List Account} {text : String} {today : Date} {outcome : Outcome}

theorem ReportsOf.portrays {payer payee : Option String} {snapshots : List Snapshot}
    (h : ReportsOf accounts payer payee snapshots) (hshaped : ∀ a ∈ accounts, a.Shaped) :
    List.Forall₂ Snapshot.Portrays snapshots (Account.named accounts payer payee) := by
  have hmem : ∀ a ∈ Selection.reported accounts payer payee, a.Shaped :=
    fun a ha => hshaped a (Ledger.isFirst_of_mem_reported ha).mem
  rw [ReportsOf] at h
  rw [← Selection.reported_eq_named]
  generalize Selection.reported accounts payer payee = reported at h hmem
  induction h with
  | nil => exact .nil
  | @cons s a _ _ hs _ ih =>
      obtain ⟨ha, hrest⟩ := List.forall_mem_cons.mp hmem
      exact .cons (hs.portrays ha s.balance) (ih hrest)

theorem Payable.portrays {i : Instruction} {debit credit : Account}
    (h : Payable accounts i debit credit) (hshaped : ∀ a ∈ accounts, a.Shaped) {s t : Snapshot}
    (hdebit : s.Reports debit) (hcredit : t.Reports credit) (x y : Number) :
    List.Forall₂ Snapshot.Portrays [{ s with balance := x }, { t with balance := y }]
      (Account.named accounts (some i.debitAccount) (some i.creditAccount)) := by
  rw [← Selection.reported_eq_named, Selection.reported_eq_pair h.payer h.payee h.distinct]
  exact .cons (hdebit.portrays (hshaped _ h.payer.mem) x)
    (.cons (hcredit.portrays (hshaped _ h.payee.mem) y) .nil)

/-- Whatever becomes of a sentence of a recognised kind, its verdict shows the accounts
that it names. -/
theorem Decided.portrays_named (h : Decided accounts text today outcome)
    (hshaped : ∀ a ∈ accounts, a.Shaped) {kind : Kind} (hkind : Stands (tokens text) 0 kind.word) :
    List.Forall₂ Snapshot.Portrays (Verdict.ofOutcome outcome).accounts
      (Account.named accounts (payerToken kind (tokens text))
        (payeeToken kind (tokens text))) := by
  cases h with
  | unrecognised h => exact absurd hkind (ofText?_eq_none_iff.mp h kind)
  | unreadable hkind' _ hreports =>
      rw [kind_unique hkind hkind']
      exact hreports.portrays hshaped
  | refused h _ _ hreports =>
      obtain ⟨hpayer, hpayee⟩ := ids_of_ofText? hkind h
      rw [hpayer, hpayee]
      exact hreports.portrays hshaped
  | @waiting _ _ _ _ s t h hpay _ _ hdebit hcredit =>
      obtain ⟨hpayer, hpayee⟩ := ids_of_ofText? hkind h
      rw [hpayer, hpayee]
      exact hpay.portrays hshaped hdebit hcredit s.balance t.balance
  | moved h hpay _ hdebit hcredit _ _ =>
      obtain ⟨hpayer, hpayee⟩ := ids_of_ofText? hkind h
      rw [hpayer, hpayee]
      exact hpay.portrays hshaped hdebit hcredit _ _

theorem Decided.accounts_of_unrecognised (h : Decided accounts text today outcome)
    (hkind : ∀ kind : Kind, ¬ Stands (tokens text) 0 kind.word) :
    (Verdict.ofOutcome outcome).accounts = [] := by
  rw [← ofText?_eq_none_iff] at hkind
  cases h with
  | unrecognised _ => rfl
  | unreadable _ h _ | refused h _ _ _ | waiting h _ _ _ _ _ | moved h _ _ _ _ _ _ =>
      rw [h] at hkind
      cases hkind

end

/-- What the snapshots of a verdict on a text say. -/
structure Verdict.Reports (v : Verdict) (accounts : List Account) (text : String) : Prop where
  unrecognised : (∀ kind : Kind, ¬ Stands (tokens text) 0 kind.word) → v.accounts = []
  named : ∀ kind : Kind, Stands (tokens text) 0 kind.word →
    List.Forall₂ Snapshot.Portrays v.accounts
      (Account.named accounts (payerToken kind (tokens text)) (payeeToken kind (tokens text)))
  moved : v.code = .success → ∃ amount s t, v.accounts = [s, t] ∧
    v.amount = some amount ∧ v.debitAccount = some s.id ∧ v.creditAccount = some t.id ∧
    s.balanceBefore.minus? amount = some s.balance ∧ t.balanceBefore.plus? amount = some t.balance
  kept : v.code ≠ .success → ∀ s ∈ v.accounts, s.balance = s.balanceBefore
  atMostTwo : v.accounts.length ≤ 2
  distinct : (v.accounts.map Snapshot.id).Nodup

theorem map_id_of_portrays {snapshots : List Snapshot} {accounts : List Account}
    (h : List.Forall₂ Snapshot.Portrays snapshots accounts) :
    snapshots.map Snapshot.id = accounts.map Account.id := by
  induction h with
  | nil => rfl
  | cons hs _ ih => rw [List.map_cons, List.map_cons, hs.id, ih]

theorem Decided.reports {accounts : List Account} {text : String} {today : Date}
    {outcome : Outcome} (h : Decided accounts text today outcome)
    (hshaped : ∀ a ∈ accounts, a.Shaped) : (Verdict.ofOutcome outcome).Reports accounts text := by
  -- a text of no kind names no id
  have hids : ∃ payer payee, List.Forall₂ Snapshot.Portrays (Verdict.ofOutcome outcome).accounts
      (Account.named accounts payer payee) := by
    by_cases hkind : ∃ kind : Kind, Stands (tokens text) 0 kind.word
    · obtain ⟨kind, hkind⟩ := hkind
      exact ⟨_, _, h.portrays_named hshaped hkind⟩
    · refine ⟨none, none, ?_⟩
      rw [h.accounts_of_unrecognised (not_exists.mp hkind)]
      exact .nil
  obtain ⟨payer, payee, hportrays⟩ := hids
  refine ⟨h.accounts_of_unrecognised, fun _ => h.portrays_named hshaped, ?_, ?_, ?_, ?_⟩
  · intro hcode
    obtain ⟨amount, s, t, hmoves⟩ := h.moves_of_successful (h.code_eq_success_iff.mp hcode)
    exact ⟨amount, s, t, hmoves.reported, hmoves.moved, hmoves.payer, hmoves.payee,
      hmoves.taken, hmoves.paid⟩
  · intro hcode s hs
    obtain ⟨a, _, hreports⟩ := h.reports_of_code_ne hcode s hs
    exact hreports.balanceBefore.symm
  · rw [hportrays.length_eq]
    exact Account.length_named_le _ _ _
  · rw [map_id_of_portrays hportrays]
    exact Account.nodup_map_id_named _ _ _

/-- The verdict on a payload of the right shape, which only a debt too long to be written can
keep it from, reports the first accounts with the two
ids that its sentence names, at whatever stage the sentence failed or passed: each once,
with its id, its currency in capitals and its balance as it was. A success reports both
and moves its amount from the first to the second; any other verdict moves nothing. -/
theorem process_reports (payload : Value) (request : Request) (today : Date)
    (hshape : Request.ofValue payload = .ok request) :
    (∃ verdict, process payload today = .ok verdict ∧
      verdict.Reports request.accounts request.instruction) ∨
    process payload today = .error .unprintable ∧
      UnprintableText request.accounts request.instruction := by
  rcases process_cases hshape today with ⟨outcome, hverdict, hdecided, _⟩ | hlong
  · exact Or.inl ⟨_, hverdict, hdecided.reports (Request.shaped_of_ofValue hshape)⟩
  · exact Or.inr hlong

/-- A credit that fails on its date, with an id of a listed account before one that no
account can have. -/
def misdatedRequest : Request where
  accounts := [⟨"A2", .number (.whole 50), some "ngn"⟩, ⟨"A!", .number (.whole 7), some "usd"⟩,
    ⟨"A2", .number (.whole 9), some "NGN"⟩]
  instruction := "CREDIT 100 NGN TO ACCOUNT A2 FOR DEBIT FROM ACCOUNT A! ON 2026-02-30"

theorem process_reports_misdatedRequest :
    Request.ofValue misdatedRequest.toValue = .ok misdatedRequest ∧
    ∃ verdict, process misdatedRequest.toValue ⟨2026, 1, 15, by decide⟩ = .ok verdict ∧
      verdict.Reports misdatedRequest.accounts misdatedRequest.instruction := by
  have hshaped : ∀ a ∈ misdatedRequest.accounts, a.Shaped := by decide +kernel
  have hshape : Request.ofValue misdatedRequest.toValue = .ok misdatedRequest :=
    Request.ofValue_payload _ (Request.accountsOf_accountsValue hshaped)
  have hdebts : ∀ a ∈ misdatedRequest.accounts, a.ShortDebt := by
    simp [misdatedRequest, Account.ShortDebt]
  exact ⟨hshape, (process_reports _ _ _ hshape).resolve_right fun hlong =>
    not_unprintableText hdebts _ hlong.2⟩

end Remittance
