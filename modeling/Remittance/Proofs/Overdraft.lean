import Remittance.Proofs.Lines
import Remittance.Proofs.Transfer

/-!
# No overdraft

A success leaves the account that pays with something between zero and what it had, and
the account that is paid with at least what it had (`withinMeans`), so recording a verdict
leaves no balance below zero (`inCredit_record`). By induction over the lines no run does
(`run_never_overdrawn`), on whole numbers and on doubles alike, although a double takes
the amount as rounded.
-/

namespace Remittance

open Instruction

namespace Number

theorem atLeast_iff {x : Number} {p q : ℚ} (hx : x.toRat? = some p) : x.AtLeast q ↔ q ≤ p := by
  rcases cases_of_toRat? hx with ⟨_, rfl, rfl⟩ | ⟨_, _, rfl, rfl⟩ <;> exact Iff.rfl

theorem AtLeast.mono {x : Number} {p q : ℚ} (h : x.AtLeast q) (hle : p ≤ q) : x.AtLeast p := by
  cases x with
  | whole value => exact hle.trans h
  | double value =>
      cases value with
      | finite negative magnitude => exact hle.trans h
      | infinite _ => exact h
      | nan => exact h

end Number

/-- The balance is a number that is not below zero. -/
def Account.InCredit (a : Account) : Prop :=
  ∃ x, a.balance = .number x ∧ x.AtLeast 0

theorem Account.InCredit.shortDebt {a : Account} (h : a.InCredit) : a.ShortDebt := by
  intro n hn hneg
  obtain ⟨x, hx, hcovers⟩ := h
  rw [hn] at hx
  cases hx
  have hle : (0 : ℚ) ≤ n := hcovers
  exact absurd (by exact_mod_cast hle) (not_le.mpr hneg)

/-- Of the two accounts of the verdict, the one that pays keeps something between zero and
what it had, and the one that is paid has at least what it had. -/
def Verdict.WithinMeans (v : Verdict) : Prop :=
  ∃ s t, v.accounts = [s, t] ∧ v.debitAccount = some s.id ∧ v.creditAccount = some t.id ∧
    (∃ before after, s.balanceBefore.toRat? = some before ∧ s.balance.toRat? = some after ∧
      0 ≤ after ∧ after ≤ before) ∧
    ∃ before, t.balanceBefore.toRat? = some before ∧ t.balance.AtLeast before

theorem Verdict.Moves.withinMeans {v : Verdict} {accounts : List Account} {amount : Nat}
    {s t : Snapshot} (h : v.Moves accounts amount s t) (hshaped : ∀ a ∈ accounts, a.Shaped) :
    v.WithinMeans := by
  obtain ⟨q, hq, hle⟩ := h.funds
  obtain ⟨r, hr, hnonneg, hbound⟩ := Number.bounds_of_minus? hq hle h.taken
  obtain ⟨p, hp⟩ := h.toRat?_payee hshaped
  exact ⟨s, t, h.reported, h.payer, h.payee, ⟨q, r, hq, hr, hnonneg, hbound⟩, p, hp,
    Number.atLeast_of_plus? hp h.paid⟩

namespace Ledger

/-- Recording a verdict about accounts in credit leaves them in credit. -/
theorem inCredit_record {accounts : List Account} {text : String} {today : Date}
    {outcome : Outcome} (hshaped : ∀ a ∈ accounts, a.Shaped)
    (hcredit : ∀ a ∈ accounts, a.InCredit) (h : Decided accounts text today outcome) :
    ∀ a ∈ record accounts (Verdict.ofOutcome outcome).accounts, a.InCredit := by
  by_cases hcode : (Verdict.ofOutcome outcome).code = .success
  · obtain ⟨amount, s, t, hmoves⟩ := h.moves_of_successful (h.code_eq_success_iff.mp hcode)
    obtain ⟨q, hq, hle⟩ := hmoves.funds
    obtain ⟨r, hr, hnonneg, _⟩ := Number.bounds_of_minus? hq hle hmoves.taken
    -- the account that is paid was in credit and has not lost anything
    obtain ⟨a, hfirst, hbalance⟩ := hmoves.credit
    obtain ⟨x, hx, hcovers⟩ := hcredit a hfirst.mem
    rw [hbalance] at hx
    cases hx
    obtain ⟨p, hp⟩ := hmoves.toRat?_payee hshaped
    have hpaid := (Number.atLeast_of_plus? hp hmoves.paid).mono ((Number.atLeast_iff hp).mp hcovers)
    rw [hmoves.reported]
    refine forall_mem_record ?_ hcredit
    simp only [List.forall_mem_cons]
    exact ⟨fun _ _ => ⟨_, rfl, (Number.atLeast_iff hr).mpr hnonneg⟩,
      fun _ _ => ⟨_, rfl, hpaid⟩, List.forall_mem_nil _⟩
  · rwa [record_of_code_ne h hcode]

/-- A run over accounts in credit never overdraws one. Every line that it writes leaves all
accounts in credit, and every success keeps within the means of the account that pays.
The run writes a line for every text unless the list that a line leaves behind is
refused. -/
theorem run_never_overdrawn (submitted : Value) (accounts : List Account) (texts : List String)
    (today : Date) (hlist : Request.accountsOf (some submitted) = .ok accounts)
    (hcredit : ∀ a ∈ accounts, a.InCredit) :
    (∀ entry ∈ lines submitted (texts.map .text) today,
      (∀ a ∈ entry.accounts, a.InCredit) ∧
      (entry.verdict.status = .successful → entry.verdict.WithinMeans)) ∧
    (run submitted (texts.map .text) today = .ok (lines submitted (texts.map .text) today) ∧
        (lines submitted (texts.map .text) today).length = texts.length ∨
      ∃ violations, Request.accountsOf (some (Request.accountsValue
          (closing accounts (lines submitted (texts.map .text) today)))) = .error violations ∧
        run submitted (texts.map .text) today = .error (.payload violations)) := by
  constructor
  · refine forall_mem_lines (I := fun accounts => ∀ a ∈ accounts, a.InCredit) ?_ texts hlist
      hcredit
    intro accounts text outcome hshaped hcredit hdecided
    have hrecord := inCredit_record hshaped hcredit hdecided
    refine ⟨⟨hrecord, fun hstatus => ?_⟩, hrecord⟩
    obtain ⟨amount, s, t, hmoves⟩ := hdecided.moves_of_successful hstatus
    exact hmoves.withinMeans hshaped
  · rcases run_eq_lines_or_refused texts today hlist fun a ha => (hcredit a ha).shortDebt with
      hrun | hrefused
    · have hlength := (run_eq_ok_iff.mp hrun).2
      rw [List.length_map] at hlength
      exact Or.inl ⟨hrun, hlength⟩
    · exact Or.inr hrefused

/-- All but two of a double, by an amount that no double is equal to, and half of it back. -/
def wideRun : List String :=
  ["DEBIT 9007199254740993 NGN FROM ACCOUNT A1 FOR CREDIT TO ACCOUNT A2",
    "CREDIT 4503599627370497 NGN TO ACCOUNT A1 FOR DEBIT FROM ACCOUNT A2"]

theorem run_never_overdrawn_wideRun :
    Request.accountsOf (some (Request.accountsValue (wideRequest 0).accounts)) =
      .ok (wideRequest 0).accounts ∧
    (∀ a ∈ (wideRequest 0).accounts, a.InCredit) ∧
    (∀ entry ∈ lines (Request.accountsValue (wideRequest 0).accounts) (wideRun.map .text)
        ⟨2026, 1, 15, by decide⟩,
      (∀ a ∈ entry.accounts, a.InCredit) ∧
      (entry.verdict.status = .successful → entry.verdict.WithinMeans)) ∧
    (run (Request.accountsValue (wideRequest 0).accounts) (wideRun.map .text)
        ⟨2026, 1, 15, by decide⟩ =
        .ok (lines (Request.accountsValue (wideRequest 0).accounts) (wideRun.map .text)
          ⟨2026, 1, 15, by decide⟩) ∧
        (lines (Request.accountsValue (wideRequest 0).accounts) (wideRun.map .text)
          ⟨2026, 1, 15, by decide⟩).length = wideRun.length ∨
      ∃ violations, Request.accountsOf (some (Request.accountsValue
          (closing (wideRequest 0).accounts
            (lines (Request.accountsValue (wideRequest 0).accounts) (wideRun.map .text)
              ⟨2026, 1, 15, by decide⟩)))) = .error violations ∧
        run (Request.accountsValue (wideRequest 0).accounts) (wideRun.map .text)
          ⟨2026, 1, 15, by decide⟩ = .error (.payload violations)) := by
  have hlist := Request.accountsOf_accountsValue (shaped_wideRequest 0)
  have hcredit : ∀ a ∈ (wideRequest 0).accounts, a.InCredit := by
    simp only [wideRequest, List.forall_mem_cons]
    refine ⟨⟨_, rfl, (Number.atLeast_iff toRat?_wideBalance).mpr ?_⟩,
      ⟨_, rfl, (Number.atLeast_iff (rfl : (Number.whole 50).toRat? = some _)).mpr ?_⟩,
      List.forall_mem_nil _⟩ <;> norm_num
  exact ⟨hlist, hcredit, run_never_overdrawn _ _ _ _ hlist hcredit⟩

end Ledger

end Remittance
