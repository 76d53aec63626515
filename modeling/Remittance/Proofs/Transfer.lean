import Remittance.Proofs.Decision
import Remittance.Proofs.MovedBalance

/-!
# Successful transfers

What a success reports is said once (`Moves`, `moves_of_successful`): two different
accounts of the list, the first of which covers the amount, and their balances after it
has been taken and added. So the first balance moves by exactly the amount when numbers
of its kind hold the amount and the difference, and not otherwise, and the second one
when they hold the amount and the sum (`success_exact`). Rounding can lose or create
money (`success_inexact_wideRequest`).
-/

namespace Remittance

open Instruction Table

namespace Number

theorem exists_toRat?_of_isFinite {x : Number} (h : x.isFinite = true) :
    ∃ q, x.toRat? = some q := by
  cases x with
  | whole value => exact ⟨value, rfl⟩
  | double value =>
      cases value with
      | finite negative magnitude => exact ⟨_, Binary64.toRat?_finite negative magnitude⟩
      | infinite _ => cases h
      | nan => cases h

theorem isFinite_of_toRat? {x : Number} {q : ℚ} (h : x.toRat? = some q) :
    x.isFinite = true := by
  rcases cases_of_toRat? h with ⟨_, rfl, _⟩ | ⟨_, _, rfl, _⟩ <;> rfl

end Number

/-- The verdict moves an amount from the first to the second of the snapshots. -/
structure Verdict.Moves (v : Verdict) (accounts : List Account) (amount : Nat)
    (s t : Snapshot) : Prop where
  reported : v.accounts = [s, t]
  moved : v.amount = some (amount : Int)
  payer : v.debitAccount = some s.id
  payee : v.creditAccount = some t.id
  distinct : s.id ≠ t.id
  debit : ∃ a, IsFirst accounts s.id a ∧ a.balance = .number s.balanceBefore
  credit : ∃ a, IsFirst accounts t.id a ∧ a.balance = .number t.balanceBefore
  funds : ∃ q, s.balanceBefore.toRat? = some q ∧ (amount : ℚ) ≤ q
  taken : s.balanceBefore.minus? amount = some s.balance
  paid : t.balanceBefore.plus? amount = some t.balance

section

variable {accounts : List Account} {text : String} {today : Date} {outcome : Outcome}

theorem Decided.code_eq_success_iff (h : Decided accounts text today outcome) :
    (Verdict.ofOutcome outcome).code = .success ↔
      (Verdict.ofOutcome outcome).status = .successful := by
  constructor
  · intro hcode
    obtain ⟨_, _, _, _, _, _, _, rfl, _⟩ := h.moved_of_success hcode
    rfl
  · intro hstatus
    cases h with
    | unrecognised _ => cases hstatus
    | unreadable _ _ _ => cases hstatus
    | refused _ _ _ _ => cases hstatus
    | waiting _ _ _ _ _ _ => cases hstatus
    | moved _ _ _ _ _ _ _ => rfl

/-- Everything that a success says. -/
theorem Decided.moves_of_successful (h : Decided accounts text today outcome)
    (hstatus : (Verdict.ofOutcome outcome).status = .successful) :
    ∃ amount s t, (Verdict.ofOutcome outcome).Moves accounts amount s t := by
  obtain ⟨i, debit, credit, s, t, x, y, rfl, hpay, hdebit, hcredit, hx, hy⟩ :=
    h.moved_of_success (h.code_eq_success_iff.mpr hstatus)
  have hs : s.id = i.debitAccount := hdebit.id.trans hpay.payer.id_eq
  have ht : t.id = i.creditAccount := hcredit.id.trans hpay.payee.id_eq
  refine ⟨i.amount, { s with balance := x }, { t with balance := y }, ?_⟩
  refine ⟨rfl, rfl, congrArg some hs.symm, congrArg some ht.symm, ?_, ⟨debit, ?_, ?_⟩,
    ⟨credit, ?_, ?_⟩, ?_, hx, hy⟩
  · show s.id ≠ t.id
    rw [hs, ht]
    exact hpay.distinct
  · show IsFirst accounts s.id debit
    rw [hs]
    exact hpay.payer
  · rw [hdebit.balance, hdebit.balanceBefore]
  · show IsFirst accounts t.id credit
    rw [ht]
    exact hpay.payee
  · rw [hcredit.balance, hcredit.balanceBefore]
  · obtain ⟨z, q, hz, hq, hle⟩ := hpay.funds
    rw [hdebit.balance, ← hdebit.balanceBefore] at hz
    cases hz
    exact ⟨q, hq, by exact_mod_cast hle⟩

/-- A payment that keeps the rules is accepted: it waits for a date after today, and else
it moves its amount. -/
theorem Decided.accepted_of_payable (h : Decided accounts text today outcome) {i : Instruction}
    {debit credit : Account} (hread : ofText? text = some (.ok i))
    (hpay : Payable accounts i debit credit) :
    ∃ s t : Snapshot, s.Reports debit ∧ t.Reports credit ∧
      ((∃ d, i.executeBy = some d ∧ today < d) ∧ outcome = .accepted i .later [s, t] ∨
        (∀ d, i.executeBy = some d → ¬ today < d) ∧
          ∃ x y : Number, s.balanceBefore.minus? i.amount = some x ∧
            t.balanceBefore.plus? i.amount = some y ∧
            outcome = .accepted i .now [{ s with balance := x }, { t with balance := y }]) := by
  cases h with
  | unrecognised h =>
      rw [h] at hread
      cases hread
  | unreadable _ h _ =>
      rw [h] at hread
      cases hread
  | refused h hcode _ _ =>
      rw [h] at hread
      cases hread
      exact absurd hcode (not_selects_of_clear hpay.clear_obstacles)
  | waiting h hpay' hdate hlater hs ht =>
      rw [h] at hread
      cases hread
      rw [hpay'.payer.unique hpay.payer] at hs
      rw [hpay'.payee.unique hpay.payee] at ht
      exact ⟨_, _, hs, ht, Or.inl ⟨⟨_, hdate, hlater⟩, rfl⟩⟩
  | moved h hpay' hdate hs ht hx hy =>
      rw [h] at hread
      cases hread
      rw [hpay'.payer.unique hpay.payer] at hs
      rw [hpay'.payee.unique hpay.payee] at ht
      exact ⟨_, _, hs, ht, Or.inr ⟨hdate, _, _, hx, hy, rfl⟩⟩

/-- A payment that keeps the rules and does not wait moves its amount. -/
theorem Decided.moved_of_payable (h : Decided accounts text today outcome) {i : Instruction}
    {debit credit : Account} (hread : ofText? text = some (.ok i))
    (hpay : Payable accounts i debit credit)
    (hdate : ∀ d, i.executeBy = some d → ¬ today < d) :
    ∃ (s t : Snapshot) (x y : Number),
      outcome = .accepted i .now [{ s with balance := x }, { t with balance := y }] ∧
      s.Reports debit ∧ t.Reports credit ∧
      s.balanceBefore.minus? i.amount = some x ∧ t.balanceBefore.plus? i.amount = some y := by
  obtain ⟨s, t, hs, ht, ⟨⟨d, hd, hlater⟩, _⟩ | ⟨_, x, y, hx, hy, houtcome⟩⟩ :=
    h.accepted_of_payable hread hpay
  · exact absurd hlater (hdate d hd)
  · exact ⟨s, t, x, y, houtcome, hs, ht, hx, hy⟩

end

/-! ## Exact transfers -/

/-- The balance is by exactly `n` larger than before. -/
def Snapshot.MovedBy (s : Snapshot) (n : Int) : Prop :=
  ∃ b, s.balanceBefore.toRat? = some b ∧ s.balance.toRat? = some (b + n)

/-- The two balances are together as much as before. -/
def Snapshot.SameSum (s t : Snapshot) : Prop :=
  ∃ a b c d, s.balance.toRat? = some a ∧ t.balance.toRat? = some b ∧
    s.balanceBefore.toRat? = some c ∧ t.balanceBefore.toRat? = some d ∧ a + b = c + d

theorem Snapshot.MovedBy.sameSum {s t : Snapshot} {n : Int} (hs : s.MovedBy (-n))
    (ht : t.MovedBy n) : s.SameSum t := by
  obtain ⟨c, hc, ha⟩ := hs
  obtain ⟨d, hd, hb⟩ := ht
  refine ⟨_, _, c, d, ha, hb, hc, hd, ?_⟩
  push_cast
  ring

namespace Verdict.Moves

variable {v : Verdict} {accounts : List Account} {amount : Nat} {s t : Snapshot}

/-- The balance of the account that is paid is finite before the transfer. -/
theorem toRat?_payee (h : v.Moves accounts amount s t) (hshaped : ∀ a ∈ accounts, a.Shaped) :
    ∃ q, t.balanceBefore.toRat? = some q := by
  obtain ⟨a, hfirst, hbalance⟩ := h.credit
  obtain ⟨n, hn, hfinite⟩ := (hshaped a hfirst.mem).balance
  rw [hbalance] at hn
  cases hn
  exact Number.exists_toRat?_of_isFinite hfinite

theorem payer_movedBy_iff (h : v.Moves accounts amount s t) :
    s.MovedBy (-amount) ↔
      s.balanceBefore.CanTake amount ∧ s.balanceBefore.CanBecome (-amount) := by
  obtain ⟨q, hq, hle⟩ := h.funds
  rw [← Number.minus?_exact_iff hq hle h.taken]
  simp only [Snapshot.MovedBy, hq, Option.some.injEq, exists_eq_left', Int.cast_neg,
    Int.cast_natCast, sub_eq_add_neg]

theorem payee_canBecome (h : v.Moves accounts amount s t) (hmove : t.MovedBy amount) :
    t.balanceBefore.CanBecome amount := by
  obtain ⟨q, hq, hmoved⟩ := hmove
  rcases Number.plus?_cases hq h.paid with ⟨_, hwhole, _, _⟩ | ⟨_, _, z, hdouble, rfl, hz, _⟩
  · rw [hwhole]
    trivial
  · rw [hdouble]
    rw [hz] at hmoved
    exact ⟨_, rfl, z, hmoved⟩

theorem payee_movedBy_iff (h : v.Moves accounts amount s t)
    (hshaped : ∀ a ∈ accounts, a.Shaped) (htake : t.balanceBefore.CanTake amount) :
    t.MovedBy amount ↔ t.balanceBefore.CanBecome amount := by
  obtain ⟨q, hq⟩ := h.toRat?_payee hshaped
  rw [← Number.plus?_exact_iff hq htake h.paid]
  simp only [Snapshot.MovedBy, hq, Option.some.injEq, exists_eq_left']

end Verdict.Moves

/-- A success moves exactly its amount where the numbers of the balances allow it. The
account that pays loses exactly the amount when numbers of its kind hold the amount and
what is left, and only then. The account that is paid gains exactly the amount only when
they hold the sum, and then does so if they hold the amount as well. -/
theorem success_exact (payload : Value) (request : Request) (today : Date) (verdict : Verdict)
    (hshape : Request.ofValue payload = .ok request)
    (hprocess : process payload today = .ok verdict) (hsuccess : verdict.status = .successful) :
    ∃ amount s t, verdict.Moves request.accounts amount s t ∧
      (s.MovedBy (-amount) ↔
        s.balanceBefore.CanTake amount ∧ s.balanceBefore.CanBecome (-amount)) ∧
      (t.MovedBy amount → t.balanceBefore.CanBecome amount) ∧
      (t.balanceBefore.CanTake amount → t.balanceBefore.CanBecome amount → t.MovedBy amount) ∧
      (s.MovedBy (-amount) → t.MovedBy amount → s.SameSum t) := by
  have hshaped := Request.shaped_of_ofValue hshape
  rw [process_eq_evaluate hshape] at hprocess
  obtain ⟨outcome, rfl, hdecided⟩ := decided_of_evaluate hshaped hprocess
  obtain ⟨amount, s, t, h⟩ := hdecided.moves_of_successful hsuccess
  exact ⟨amount, s, t, h, h.payer_movedBy_iff, h.payee_canBecome,
    fun htake => (h.payee_movedBy_iff hshaped htake).mpr, Snapshot.MovedBy.sameSum⟩

/-- The double after the first whole number that no double is equal to. -/
def wideBalance : Binary64 := .scaled 4503599627370497 1 (by decide) (by decide)

/-- A payment out of a double, of any amount. -/
def wideRequest (amount : Int) : Request where
  accounts := [⟨"A1", .number (.double wideBalance), some "NGN"⟩,
    ⟨"A2", .number (.whole 50), some "NGN"⟩]
  instruction := "DEBIT " ++ wholeText amount ++ " NGN FROM ACCOUNT A1 FOR CREDIT TO ACCOUNT A2"

/-- What is left is two, for the odd amount as for the even one below it. -/
def wideVerdict (amount : Int) : Verdict where
  kind := some .debit
  amount := some amount
  currency := some "NGN"
  debitAccount := some "A1"
  creditAccount := some "A2"
  status := .successful
  reason := Timing.message .now
  code := .success
  accounts :=
    [⟨"A1", .double (.scaled 1 1 (by decide) (by decide)), .double wideBalance, "NGN"⟩,
      ⟨"A2", .whole (50 + amount), .whole 50, "NGN"⟩]

theorem toRat?_wideBalance : (Number.double wideBalance).toRat? = some 9007199254740994 := by
  rw [Number.toRat?, wideBalance, Binary64.toRat?_scaled]
  norm_num

theorem shaped_wideRequest (amount : Int) : ∀ a ∈ (wideRequest amount).accounts, a.Shaped := by
  simp only [wideRequest, List.forall_mem_cons]
  exact ⟨⟨⟨_, rfl, rfl⟩, _, rfl⟩, ⟨⟨_, rfl, rfl⟩, _, rfl⟩, List.forall_mem_nil _⟩

theorem ofValue_wideRequest (amount : Int) :
    Request.ofValue (wideRequest amount).toValue = .ok (wideRequest amount) :=
  Request.ofValue_toValue (shaped_wideRequest amount)

theorem success_exact_wideRequest :
    Request.ofValue (wideRequest 9007199254740992).toValue = .ok (wideRequest 9007199254740992) ∧
    process (wideRequest 9007199254740992).toValue ⟨2026, 1, 15, by decide⟩ =
      .ok (wideVerdict 9007199254740992) ∧
    (wideVerdict 9007199254740992).status = .successful ∧
    ∃ amount s t,
      (wideVerdict 9007199254740992).Moves (wideRequest 9007199254740992).accounts amount s t ∧
      (s.MovedBy (-amount) ↔
        s.balanceBefore.CanTake amount ∧ s.balanceBefore.CanBecome (-amount)) ∧
      (t.MovedBy amount → t.balanceBefore.CanBecome amount) ∧
      (t.balanceBefore.CanTake amount → t.balanceBefore.CanBecome amount → t.MovedBy amount) ∧
      (s.MovedBy (-amount) → t.MovedBy amount → s.SameSum t) := by
  have hshape := ofValue_wideRequest 9007199254740992
  have hprocess : process (wideRequest 9007199254740992).toValue ⟨2026, 1, 15, by decide⟩ =
      .ok (wideVerdict 9007199254740992) := by decide +kernel
  exact ⟨hshape, hprocess, rfl, success_exact _ _ _ _ hshape hprocess rfl⟩

/-- An amount that no double is equal to is rounded before it is taken and added as it is,
so the two accounts hold one more than before. -/
theorem success_inexact_wideRequest :
    Request.ofValue (wideRequest 9007199254740993).toValue = .ok (wideRequest 9007199254740993) ∧
    process (wideRequest 9007199254740993).toValue ⟨2026, 1, 15, by decide⟩ =
      .ok (wideVerdict 9007199254740993) ∧
    (wideVerdict 9007199254740993).status = .successful ∧
    ∃ s t, (wideVerdict 9007199254740993).accounts = [s, t] ∧
      ¬ s.MovedBy (-9007199254740993) ∧ t.MovedBy 9007199254740993 ∧ ¬ s.SameSum t := by
  have hafter : (Number.double (.scaled 1 1 (by decide) (by decide))).toRat? = some 2 := by
    rw [Number.toRat?, Binary64.toRat?_scaled]
    norm_num
  refine ⟨ofValue_wideRequest _, by decide +kernel, rfl, _, _, rfl, ?_, ?_, ?_⟩
  · rintro ⟨b, hb, hmoved⟩
    rw [toRat?_wideBalance] at hb
    rw [hafter] at hmoved
    cases hb
    norm_num at hmoved
  · exact ⟨50, rfl, by norm_num [Number.toRat?]⟩
  · rintro ⟨a, b, c, d, ha, hb, hc, hd, hsum⟩
    rw [hafter] at ha
    rw [toRat?_wideBalance] at hc
    cases ha
    cases hb
    cases hc
    cases hd
    norm_num at hsum

end Remittance
