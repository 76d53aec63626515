import Remittance.Proofs.Lines
import Remittance.Proofs.Transfer
import Remittance.Proofs.WrittenInstruction

/-!
# Balances that are submitted again

Every balance that a verdict reports is finite but for one: a double that is paid
overflows when it reaches the overflow point (`balances_finite_iff`). Written back, the
balances pass the shape check again exactly when none overflows (`shaped_record_iff`), so
a run can be stopped by an overflow and by nothing else (`readmitted_iff`). One such
verdict exists (`overflow_fullRequest`).
-/

namespace Remittance

open Instruction

/-- The verdict pays its amount to a double that reaches the overflow point by it. -/
def Verdict.Overflows (v : Verdict) : Prop :=
  v.status = .successful ∧ ∃ t ∈ v.accounts, ∃ n, v.creditAccount = some t.id ∧
    v.amount = some n ∧ t.balanceBefore.Overflows n

namespace Verdict.Moves

variable {v : Verdict} {accounts : List Account} {amount : Nat} {s t : Snapshot}

theorem overflows_iff (h : v.Moves accounts amount s t) (hstatus : v.status = .successful) :
    v.Overflows ↔ t.balanceBefore.Overflows amount := by
  rw [Overflows, h.reported, h.payee, h.moved]
  constructor
  · rintro ⟨_, u, hu, n, hid, hn, hover⟩
    cases hn
    -- the snapshot with the id that is paid is the second one
    rcases List.mem_pair.mp hu with rfl | rfl
    · exact absurd (Option.some.inj hid).symm h.distinct
    · exact hover
  · intro hover
    exact ⟨hstatus, t, List.mem_pair.mpr (Or.inr rfl), amount, rfl, rfl, hover⟩

theorem payer_isFinite (h : v.Moves accounts amount s t) :
    s.balanceBefore.isFinite = true ∧ s.balance.isFinite = true := by
  obtain ⟨q, hq, hle⟩ := h.funds
  obtain ⟨r, hr, _⟩ := Number.bounds_of_minus? hq hle h.taken
  exact ⟨Number.isFinite_of_toRat? hq, Number.isFinite_of_toRat? hr⟩

theorem payee_isFinite_iff (h : v.Moves accounts amount s t)
    (hshaped : ∀ a ∈ accounts, a.Shaped) :
    t.balance.isFinite = true ↔ ¬ t.balanceBefore.Overflows amount := by
  obtain ⟨q, hq⟩ := h.toRat?_payee hshaped
  exact Number.plus?_isFinite_iff hq h.paid

/-- The account that is paid holds its new balance once both are recorded. -/
theorem isFirst_record (h : v.Moves accounts amount s t) :
    ∃ a : Account, IsFirst (Ledger.record accounts v.accounts) t.id
      { a with balance := .number t.balance } := by
  obtain ⟨a, hfirst, _⟩ := h.credit
  rw [h.reported, Ledger.record_cons, Ledger.record_cons]
  refine ⟨a, Ledger.isFirst_setBalance ?_ _⟩
  exact Ledger.isFirst_setBalance_of_ne hfirst h.distinct.symm _

end Verdict.Moves

theorem Snapshot.Reports.isFinite {s : Snapshot} {a : Account} (h : s.Reports a)
    (ha : a.Shaped) : s.balanceBefore.isFinite = true ∧ s.balance.isFinite = true := by
  obtain ⟨n, hn, hfinite⟩ := ha.balance
  rw [h.balance] at hn
  cases hn
  rw [h.balanceBefore]
  exact ⟨hfinite, hfinite⟩

section

variable {accounts : List Account} {text : String} {today : Date} {outcome : Outcome}

theorem ReportsOf.exists_mem {debitId creditId : Option String} {snapshots : List Snapshot}
    (h : ReportsOf accounts debitId creditId snapshots) :
    ∀ s ∈ snapshots, ∃ a ∈ accounts, s.Reports a := by
  have hmem : ∀ a ∈ Selection.reported accounts debitId creditId, a ∈ accounts :=
    fun a ha => (Ledger.isFirst_of_mem_reported ha).mem
  rw [ReportsOf] at h
  generalize Selection.reported accounts debitId creditId = reported at h hmem
  induction h with
  | nil => exact List.forall_mem_nil _
  | cons hs _ ih =>
      obtain ⟨ha, hrest⟩ := List.forall_mem_cons.mp hmem
      exact List.forall_mem_cons.mpr ⟨⟨_, ha, hs⟩, ih hrest⟩

/-- Without a success every snapshot reports an account as it is. -/
theorem Decided.reports_of_code_ne (h : Decided accounts text today outcome)
    (hcode : (Verdict.ofOutcome outcome).code ≠ .success) :
    ∀ s ∈ (Verdict.ofOutcome outcome).accounts, ∃ a ∈ accounts, s.Reports a := by
  cases h with
  | unrecognised _ => exact List.forall_mem_nil _
  | unreadable _ _ hreports => exact hreports.exists_mem
  | refused _ _ _ hreports => exact hreports.exists_mem
  | waiting _ hpay _ _ hdebit hcredit =>
      refine List.forall_mem_cons.mpr ⟨⟨_, hpay.payer.mem, hdebit⟩, ?_⟩
      exact List.forall_mem_cons.mpr ⟨⟨_, hpay.payee.mem, hcredit⟩, List.forall_mem_nil _⟩
  | moved _ _ _ _ _ _ _ => exact absurd rfl hcode

theorem Decided.not_overflows_of_code_ne (h : Decided accounts text today outcome)
    (hcode : (Verdict.ofOutcome outcome).code ≠ .success) :
    ¬ (Verdict.ofOutcome outcome).Overflows :=
  fun hover => hcode (h.code_eq_success_iff.mpr hover.1)

theorem Decided.balancesBefore_finite (h : Decided accounts text today outcome)
    (hshaped : ∀ a ∈ accounts, a.Shaped) :
    ∀ s ∈ (Verdict.ofOutcome outcome).accounts, s.balanceBefore.isFinite = true := by
  by_cases hcode : (Verdict.ofOutcome outcome).code = .success
  · obtain ⟨amount, s, t, hmoves⟩ := h.moves_of_successful (h.code_eq_success_iff.mp hcode)
    obtain ⟨q, hq⟩ := hmoves.toRat?_payee hshaped
    rw [hmoves.reported, List.forall_mem_cons, List.forall_mem_singleton]
    exact ⟨hmoves.payer_isFinite.1, Number.isFinite_of_toRat? hq⟩
  · intro s hs
    obtain ⟨a, ha, hreports⟩ := h.reports_of_code_ne hcode s hs
    exact (hreports.isFinite (hshaped a ha)).1

/-- All balances of a verdict are finite unless the one that is paid overflows. -/
theorem Decided.balances_finite_iff (h : Decided accounts text today outcome)
    (hshaped : ∀ a ∈ accounts, a.Shaped) :
    (∀ s ∈ (Verdict.ofOutcome outcome).accounts, s.balance.isFinite = true) ↔
      ¬ (Verdict.ofOutcome outcome).Overflows := by
  by_cases hcode : (Verdict.ofOutcome outcome).code = .success
  · have hstatus := h.code_eq_success_iff.mp hcode
    obtain ⟨amount, s, t, hmoves⟩ := h.moves_of_successful hstatus
    rw [hmoves.overflows_iff hstatus, ← hmoves.payee_isFinite_iff hshaped, hmoves.reported,
      List.forall_mem_cons, List.forall_mem_singleton, and_iff_right hmoves.payer_isFinite.2]
  · refine iff_of_true ?_ (h.not_overflows_of_code_ne hcode)
    intro s hs
    obtain ⟨a, ha, hreports⟩ := h.reports_of_code_ne hcode s hs
    exact (hreports.isFinite (hshaped a ha)).2

/-- What a verdict writes back is shaped unless the balance that is paid overflows. -/
theorem Decided.shaped_record_iff (h : Decided accounts text today outcome)
    (hshaped : ∀ a ∈ accounts, a.Shaped) :
    (∀ a ∈ Ledger.record accounts (Verdict.ofOutcome outcome).accounts, a.Shaped) ↔
      ¬ (Verdict.ofOutcome outcome).Overflows := by
  constructor
  · intro hrecord hover
    obtain ⟨amount, s, t, hmoves⟩ := h.moves_of_successful hover.1
    obtain ⟨a, hfirst⟩ := hmoves.isFirst_record
    obtain ⟨n, hn, hfinite⟩ := (hrecord _ hfirst.mem).balance
    cases hn
    exact (hmoves.payee_isFinite_iff hshaped).mp hfinite ((hmoves.overflows_iff hover.1).mp hover)
  · intro hover
    have hfinite := (h.balances_finite_iff hshaped).mpr hover
    exact Ledger.forall_mem_record
      (fun s hs a ha => ⟨⟨s.balance, rfl, hfinite s hs⟩, ha.currency⟩) hshaped

end

namespace Ledger

/-- What is written back to shaped accounts is accepted again as it is or refused. -/
theorem accountsOf_record_iff {accounts : List Account} {text : String} {today : Date}
    {outcome : Outcome} (h : Decided accounts text today outcome)
    (hshaped : ∀ a ∈ accounts, a.Shaped) :
    Request.accountsOf (some (Request.accountsValue
        (record accounts (Verdict.ofOutcome outcome).accounts))) =
        .ok (record accounts (Verdict.ofOutcome outcome).accounts) ↔
      ¬ (Verdict.ofOutcome outcome).Overflows := by
  rw [Request.accountsOf_accountsValue_eq_ok_iff, and_iff_right rfl, h.shaped_record_iff hshaped]

/-- The balances of a verdict are admitted again unless one of them overflows. The
balances before are always finite, and the balances are finite and pass the shape check when
they are written back exactly when the verdict does not overflow. A run over texts stops at
a list exactly when a verdict before the last one overflows; while its debts can be written,
it comes to its end otherwise. -/
theorem readmitted_iff (payload : Value) (request : Request) (today : Date)
    (submitted : Value) (accounts : List Account) (texts : List String)
    (hshape : Request.ofValue payload = .ok request)
    (hlist : Request.accountsOf (some submitted) = .ok accounts) :
    ((∃ verdict, process payload today = .ok verdict ∧
      (∀ s ∈ verdict.accounts, s.balanceBefore.isFinite = true) ∧
      ((∀ s ∈ verdict.accounts, s.balance.isFinite = true) ↔ ¬ verdict.Overflows) ∧
      (Request.accountsOf (some (Request.accountsValue
          (record request.accounts verdict.accounts))) =
          .ok (record request.accounts verdict.accounts) ↔ ¬ verdict.Overflows)) ∨
      process payload today = .error .unprintable ∧
        UnprintableText request.accounts request.instruction) ∧
    ((∃ violations, run submitted (texts.map .text) today = .error (.payload violations)) ↔
      ∃ entry ∈ (lines submitted (texts.map .text) today).take (texts.length - 1),
        entry.verdict.Overflows) ∧
    ((∀ a ∈ accounts, a.ShortDebt) →
      ((∃ entries, run submitted (texts.map .text) today = .ok entries) ↔
        ∀ entry ∈ (lines submitted (texts.map .text) today).take (texts.length - 1),
          ¬ entry.verdict.Overflows)) := by
  have hlines : ∀ entry ∈ lines submitted (texts.map .text) today,
      (∀ a ∈ entry.accounts, a.Shaped) ↔ ¬ entry.verdict.Overflows :=
    forall_mem_lines (I := fun _ => True)
      (fun _ _ _ hshaped _ hdecided => ⟨hdecided.shaped_record_iff hshaped, trivial⟩)
      texts hlist trivial
  have hrefused : (∃ violations, run submitted (texts.map .text) today =
      .error (.payload violations)) ↔
      ∃ entry ∈ (lines submitted (texts.map .text) today).take (texts.length - 1),
        entry.verdict.Overflows := by
    rw [exists_run_refused_iff texts today hlist]
    refine exists_congr fun entry => and_congr_right fun hentry => ?_
    rw [hlines entry (List.mem_of_mem_take hentry), not_not]
  refine ⟨?_, hrefused, fun hdebts => ?_⟩
  · have hshaped := Request.shaped_of_ofValue hshape
    rcases process_cases hshape today with ⟨outcome, hverdict, hdecided, _⟩ | hlong
    · exact Or.inl ⟨_, hverdict, hdecided.balancesBefore_finite hshaped,
        hdecided.balances_finite_iff hshaped, accountsOf_record_iff hdecided hshaped⟩
    · exact Or.inr hlong
  · rw [exists_run_iff texts today hlist hdebts, hrefused]
    push Not
    rfl

/-- A power of two that overflows when it is doubled. -/
@[irreducible]
def halfway : Nat := Nat.pow 2 1023

def halfwayBalance : Binary64 := .scaled 4503599627370496 971 (by decide) (by decide)

def fullInstruction : Instruction := ⟨.debit, halfway, .ngn, "A1", "A2", none⟩

/-- A payment to a double that is as large as the amount. -/
def fullRequest : Request where
  accounts :=
    [⟨"A1", .number (.whole halfway), some "NGN"⟩,
      ⟨"A2", .number (.double halfwayBalance), some "NGN"⟩]
  instruction := fullInstruction.written

theorem shaped_fullRequest : ∀ a ∈ fullRequest.accounts, a.Shaped := by
  simp only [fullRequest, List.forall_mem_cons]
  exact ⟨⟨⟨_, rfl, rfl⟩, _, rfl⟩, ⟨⟨_, rfl, rfl⟩, _, rfl⟩, List.forall_mem_nil _⟩

theorem ofValue_fullRequest : Request.ofValue fullRequest.toValue = .ok fullRequest :=
  Request.ofValue_toValue shaped_fullRequest

theorem shortDebt_fullRequest : ∀ a ∈ fullRequest.accounts, a.ShortDebt := by
  simp only [fullRequest, List.forall_mem_cons]
  refine ⟨?_, nofun, List.forall_mem_nil _⟩
  rintro n ⟨⟩ hneg
  exact absurd (Int.natCast_nonneg halfway) (not_le.mpr hneg)

theorem readmitted_iff_fullRequest :
    Request.ofValue fullRequest.toValue = .ok fullRequest ∧
    Request.accountsOf (some (Request.accountsValue fullRequest.accounts)) =
      .ok fullRequest.accounts ∧
    (∃ verdict, process fullRequest.toValue ⟨2026, 1, 15, by decide⟩ = .ok verdict ∧
      (∀ s ∈ verdict.accounts, s.balanceBefore.isFinite = true) ∧
      ((∀ s ∈ verdict.accounts, s.balance.isFinite = true) ↔ ¬ verdict.Overflows) ∧
      (Request.accountsOf (some (Request.accountsValue
          (record fullRequest.accounts verdict.accounts))) =
          .ok (record fullRequest.accounts verdict.accounts) ↔ ¬ verdict.Overflows)) ∧
    ((∃ entries, run (Request.accountsValue fullRequest.accounts)
        ([fullRequest.instruction, fullRequest.instruction].map .text)
          ⟨2026, 1, 15, by decide⟩ = .ok entries) ↔
      ∀ entry ∈ (lines (Request.accountsValue fullRequest.accounts)
          ([fullRequest.instruction, fullRequest.instruction].map .text)
            ⟨2026, 1, 15, by decide⟩).take
              ([fullRequest.instruction, fullRequest.instruction].length - 1),
        ¬ entry.verdict.Overflows) := by
  have hlist := Request.accountsOf_accountsValue shaped_fullRequest
  obtain ⟨hverdict, _, hrun⟩ := readmitted_iff fullRequest.toValue fullRequest
    ⟨2026, 1, 15, by decide⟩ _ _ [fullRequest.instruction, fullRequest.instruction]
    ofValue_fullRequest hlist
  refine ⟨ofValue_fullRequest, hlist, hverdict.resolve_right fun hlong => ?_,
    hrun shortDebt_fullRequest⟩
  exact not_unprintableText shortDebt_fullRequest _ hlong.2

theorem covers_self (n : Int) : (Value.number (.whole n)).Covers n :=
  ⟨_, _, rfl, rfl, le_rfl⟩

theorem payable_fullInstruction :
    Payable fullRequest.accounts fullInstruction ⟨"A1", .number (.whole halfway), some "NGN"⟩
      ⟨"A2", .number (.double halfwayBalance), some "NGN"⟩ where
  payer := .here rfl
  payee := .there (by decide) (.here rfl)
  oneCurrency := rfl
  supported := by decide +kernel
  currency := by decide +kernel
  distinct := by decide
  funds := covers_self halfway

theorem ofText?_fullInstruction :
    ofText? fullRequest.instruction = some (.ok fullInstruction) := by
  have hid : ∀ id ∈ ["A1", "A2"], idFault? (some id) = none := by decide +kernel
  simp only [List.forall_mem_cons, idFault?_eq_none_iff, Option.some.injEq,
    exists_eq_left'] at hid
  exact ofText?_written ⟨by decide +kernel, by decide +kernel, hid.1, hid.2.1⟩

/-- Whatever comes of the payment, its second balance is infinite. -/
theorem infinite_of_decided {today : Date} {outcome : Outcome}
    (h : Decided fullRequest.accounts fullRequest.instruction today outcome) :
    ∃ s ∈ (Verdict.ofOutcome outcome).accounts, s.balance = .double (.infinite false) := by
  have hplus : (Number.double halfwayBalance).plus? fullInstruction.amount =
      some (.double (.infinite false)) := by decide +kernel
  obtain ⟨s, t, x, y, rfl, _, ht, _, hy⟩ :=
    h.moved_of_payable ofText?_fullInstruction payable_fullInstruction (fun _ => nofun)
  have hbefore : t.balanceBefore = .double halfwayBalance :=
    ht.balanceBefore.trans (Value.number.inj ht.balance).symm
  rw [hbefore, hplus] at hy
  cases hy
  exact ⟨_, List.mem_cons_of_mem _ List.mem_cons_self, rfl⟩

theorem overflows_of_decided {today : Date} {outcome : Outcome}
    (h : Decided fullRequest.accounts fullRequest.instruction today outcome) :
    (Verdict.ofOutcome outcome).Overflows := by
  by_contra hno
  obtain ⟨s, hs, hbalance⟩ := infinite_of_decided h
  have hfinite := (h.balances_finite_iff shaped_fullRequest).mpr hno s hs
  rw [hbalance] at hfinite
  cases hfinite

/-- The balance that is paid becomes infinite, the list that holds it is refused, and so is
any further instruction against that list. -/
theorem overflow_fullRequest :
    Request.ofValue fullRequest.toValue = .ok fullRequest ∧
    (∃ verdict, process fullRequest.toValue ⟨2026, 1, 15, by decide⟩ = .ok verdict ∧
      (∃ s ∈ verdict.accounts, s.balance = .double (.infinite false)) ∧
      ¬ ∃ accepted, Request.accountsOf (some (Request.accountsValue
        (record fullRequest.accounts verdict.accounts))) = .ok accepted) ∧
    ∃ violations, run (Request.accountsValue fullRequest.accounts)
      ([fullRequest.instruction, fullRequest.instruction].map .text)
        ⟨2026, 1, 15, by decide⟩ = .error (.payload violations) := by
  have hlist := Request.accountsOf_accountsValue shaped_fullRequest
  refine ⟨ofValue_fullRequest, ?_, ?_⟩
  · obtain ⟨outcome, hevaluate, hdecided⟩ := evaluate_decided shaped_fullRequest
      shortDebt_fullRequest fullRequest.instruction ⟨2026, 1, 15, by decide⟩
    refine ⟨_, (process_eq_evaluate ofValue_fullRequest _).trans hevaluate,
      infinite_of_decided hdecided, ?_⟩
    rintro ⟨accepted, haccepted⟩
    have hshaped := (Request.accountsOf_accountsValue_eq_ok_iff.mp haccepted).2
    exact (hdecided.shaped_record_iff shaped_fullRequest).mp hshaped
      (overflows_of_decided hdecided)
  · rw [exists_run_refused_iff _ _ hlist, List.map_cons]
    rcases step_cases hlist fullRequest.instruction ⟨2026, 1, 15, by decide⟩ with
      ⟨outcome, hstep, hdecided, _⟩ | ⟨_, hlong⟩
    · rw [lines_cons _ hstep]
      refine ⟨_, List.mem_cons_self, fun hshaped => ?_⟩
      exact (hdecided.shaped_record_iff shaped_fullRequest).mp hshaped
        (overflows_of_decided hdecided)
    · exact absurd hlong (not_unprintableText shortDebt_fullRequest _)

end Ledger

end Remittance
