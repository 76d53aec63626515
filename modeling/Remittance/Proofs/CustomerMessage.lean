import Remittance.Envelope
import Remittance.Proofs.Consistency

/-!
# What the customer is told

Every reason of a verdict has words of its own (`Decided.ownWords`), so no default message is
ever needed. A verdict for want of money comes only after all other rules have passed: the
account that pays is then listed, reported and in the currency of the instruction, and the
message can name it with what it holds (`Decided.shortfall`).
-/

namespace Remittance

open Instruction Table

namespace Envelope

/-! ## Reasons and defaults -/

/-- What stands in for a reason that is empty. -/
def defaultMessages : List String :=
  ["Instruction validation failed", "Instruction scheduled for execution",
    "Instruction executed successfully"]

/-- The text begins with four characters that begin no default message. -/
def OwnWords (s : String) : Prop :=
  4 ≤ s.toList.length ∧ s.toList.take 4 ≠ ['I', 'n', 's', 't']

instance (s : String) : Decidable (OwnWords s) := by
  unfold OwnWords
  infer_instance

theorem OwnWords.append {s : String} (h : OwnWords s) (t : String) : OwnWords (s ++ t) := by
  obtain ⟨hlength, hlead⟩ := h
  refine ⟨?_, ?_⟩
  · rw [String.toList_append, List.length_append]
    omega
  · rwa [String.toList_append, List.take_append_of_le_length hlength]

theorem OwnWords.ne_empty {s : String} (h : OwnWords s) : s ≠ "" := by
  rintro rfl
  revert h
  decide

theorem OwnWords.notMem_defaultMessages {s : String} (h : OwnWords s) :
    s ∉ defaultMessages := by
  have hdefault : ∀ d ∈ defaultMessages, ¬ OwnWords d := by decide +kernel
  exact fun hs => hdefault s hs h

theorem orElse_of_ownWords {s : String} (h : OwnWords s) (default : String) :
    orElse s default = s := by
  rw [orElse, if_neg]
  rw [String.isEmpty_iff]
  exact h.ne_empty

end Envelope

open Envelope

theorem Instruction.Fault.ownWords (fault : Fault) : OwnWords fault.message := by
  cases fault with
  | missingKeywords keywords => exact .append (by decide +kernel) _
  | wrongKeywords mismatches => exact .append (by decide +kernel) _
  | missingOn => decide +kernel
  | dateWithoutOn => decide +kernel
  | onWithoutDate => decide +kernel
  | date fault => cases fault <;> decide +kernel
  | amount fault =>
      have hlead : OwnWords amountLead := by decide +kernel
      cases fault with
      | digits fault => exact (hlead.append _).append _
      | tooLong => exact hlead.append _
      | outOfRange => exact hlead
  | currency found =>
      have hlead : OwnWords currencyLead := by decide +kernel
      exact ((hlead.append _).append _).append _
  | account side fault => exact .append (.append (.append (.append (by decide +kernel) _) _) _) _

theorem Refusal.ownWords {refusal : Refusal} {reason : String}
    (h : refusal.message? = some reason) : OwnWords reason := by
  cases refusal with
  | neitherFound =>
      obtain rfl := Option.some.inj h
      decide +kernel
  | debitNotFound id =>
      obtain rfl := Option.some.inj h
      exact .append (.append (by decide +kernel) _) _
  | creditNotFound id =>
      obtain rfl := Option.some.inj h
      exact .append (.append (by decide +kernel) _) _
  | currenciesDiffer debit credit =>
      obtain rfl := Option.some.inj h
      exact .append (.append (.append (by decide +kernel) _) _) _
  | currencyUnsupported code =>
      obtain rfl := Option.some.inj h
      have hlead : OwnWords Instruction.Fault.currencyLead := by decide +kernel
      exact ((hlead.append _).append _).append _
  | currencyMismatch instruction account =>
      obtain rfl := Option.some.inj h
      exact .append (.append (.append (by decide +kernel) _) _) _
  | sameAccount id =>
      obtain rfl := Option.some.inj h
      exact .append (by decide +kernel) _
  | insufficientFunds available required =>
      obtain ⟨_, _, h⟩ := Option.bind_eq_some_iff.mp h
      obtain ⟨_, _, h⟩ := Option.bind_eq_some_iff.mp h
      obtain rfl := Option.some.inj h
      exact .append (.append (.append (by decide +kernel) _) _) _

theorem Timing.ownWords (timing : Timing) : OwnWords timing.message := by
  cases timing <;> decide +kernel

theorem Decided.ownWords {accounts : List Account} {text : String} {today : Date}
    {outcome : Outcome} (h : Decided accounts text today outcome) :
    OwnWords (Verdict.ofOutcome outcome).reason := by
  cases h with
  | unrecognised _ =>
      have hreason : OwnWords Verdict.unrecognisedReason := by decide +kernel
      exact hreason
  | unreadable _ _ _ => exact Fault.ownWords _
  | refused _ _ hreason _ => exact Refusal.ownWords hreason
  | waiting _ _ _ _ _ _ => exact Timing.ownWords .later
  | moved _ _ _ _ _ _ _ => exact Timing.ownWords .now

/-! ## Want of money -/

/-- The message tells the want of money of the verdict: the account that pays, which is the
first with the id, what it holds, and the larger amount that was needed, both in the one
currency. -/
structure Shortfall (v : Verdict) (accounts : List Account) (message id : String)
    (held : Number) (needed : Int) (code : String) : Prop where
  payer : v.debitAccount = some id
  account : ∃ a, IsFirst accounts id a ∧ a.balance = .number held ∧ a.currencyCode = code
  amount : v.amount = some needed
  currency : v.currency = some code
  supported : code ∈ supportedCodes
  short : ∃ q, held.toRat? = some q ∧ q < needed
  message : message = v.reason ++ " in account " ++ id ++ ": has " ++ held.amountText ++ " " ++
    code ++ ", needs " ++ wholeText needed ++ " " ++ code

theorem lt_of_not_covers {held : Number} {n : Int} (hfinite : held.isFinite = true)
    (h : ¬ (Value.number held).Covers n) : ∃ q, held.toRat? = some q ∧ q < n := by
  obtain ⟨q, hq⟩ := Number.exists_toRat?_of_isFinite hfinite
  exact ⟨q, hq, lt_of_not_ge fun hle => h ⟨held, q, rfl, hq, hle⟩⟩

/-- The account that pays is the first that a refusal for want of money reports. -/
theorem failureMessage_of_reports {i : Instruction} {s : Snapshot} {debit : Account}
    (reason : String) (rest : List Snapshot) (hs : s.Reports debit)
    (hid : debit.id = i.debitAccount) :
    failureMessage (Verdict.ofInstruction i .failed reason .insufficientFunds (s :: rest)) =
      reason ++ " in account " ++ i.debitAccount ++ ": has " ++ s.balance.amountText ++ " " ++
        debit.currencyCode ++ ", needs " ++ wholeText i.amount ++ " " ++ i.currency.code := by
  have hsid : s.id = i.debitAccount := hs.id.trans hid
  have hfind : (s :: rest).find? (fun s => some s.id == some i.debitAccount) = some s :=
    List.find?_cons_of_pos (by simpa using hsid)
  rw [failureMessage]
  simp only [Verdict.ofInstruction, if_true, hfind, hsid, hs.currency]
  rfl

section

variable {accounts : List Account} {text : String} {today : Date} {outcome : Outcome}

theorem Decided.shortfall (h : Decided accounts text today outcome)
    (hshaped : ∀ a ∈ accounts, a.Shaped)
    (hcode : (Verdict.ofOutcome outcome).code = .insufficientFunds) :
    ∃ id held needed code, Shortfall (Verdict.ofOutcome outcome) accounts
      (Envelope.ofVerdict (Verdict.ofOutcome outcome)).message id held needed code := by
  cases h with
  | unrecognised _ => cases hcode
  | @unreadable _ fault _ _ _ _ =>
      refine absurd ?_ fault.code_notMem_ofRead
      rw [show fault.code = .insufficientFunds from hcode]
      decide
  | waiting _ _ _ _ _ _ => cases hcode
  | moved _ _ _ _ _ _ _ => cases hcode
  | @refused i refusal reason snapshots _ hselects _ hreports =>
      have hrefusal : refusal.code = .insufficientFunds := hcode
      rw [hrefusal] at hselects
      obtain ⟨debit, credit, hcompatible, hdistinct, hcovers⟩ :=
        selects_insufficientFunds_iff.mp hselects
      rw [ReportsOf, Selection.reported_eq_pair hcompatible.payer hcompatible.payee hdistinct,
        List.forall₂_cons_right_iff] at hreports
      obtain ⟨s, rest, hs, _, rfl⟩ := hreports
      obtain ⟨held, hheld, hfinite⟩ := (hshaped _ hcompatible.payer.mem).balance
      have hbalance : s.balance = held := Value.number.inj (hs.balance.symm.trans hheld)
      rw [hheld] at hcovers
      refine ⟨i.debitAccount, held, i.amount, i.currency.code, rfl,
        ⟨debit, hcompatible.payer, hheld, hcompatible.currency⟩, rfl, rfl,
        hcompatible.currency ▸ hcompatible.supported, lt_of_not_covers hfinite hcovers, ?_⟩
      have hmessage := failureMessage_of_reports reason rest hs hcompatible.payer.id_eq
      rw [hbalance, hcompatible.currency, ← hrefusal] at hmessage
      exact hmessage

end

/-! ## Envelopes -/

theorem Envelope.message_of_code_ne {v : Verdict} (hreason : OwnWords v.reason)
    (hcode : v.code ≠ .insufficientFunds) : (ofVerdict v).message = v.reason := by
  unfold ofVerdict
  split
  · show failureMessage v = v.reason
    rw [failureMessage, if_neg hcode, orElse_of_ownWords hreason]
  · exact orElse_of_ownWords hreason _
  · exact orElse_of_ownWords hreason _

theorem Envelope.status_ofVerdict (v : Verdict) :
    (ofVerdict v).status = if v.status = .failed then 400 else 200 := by
  unfold ofVerdict
  cases v.status <;> rfl

theorem Shortfall.ownWords {v : Verdict} {accounts : List Account} {message id : String}
    {held : Number} {needed : Int} {code : String}
    (h : Shortfall v accounts message id held needed code) (hreason : OwnWords v.reason) :
    OwnWords message := by
  rw [h.message]
  simp only [String.append_assoc]
  exact hreason.append _

/-- What the envelope of a verdict on a payload of the right shape tells, when its debts can
be written. For want of money it names the account that pays with what it holds, and in every
other case it gives the reason of the verdict, which is never empty. No default message is ever
sent. The status is 400 for a verdict that failed and 200 for any other. -/
theorem process_explains (payload : Value) (request : Request) (today : Date)
    (hshape : Request.ofValue payload = .ok request)
    (hdebts : ∀ a ∈ request.accounts, a.ShortDebt) :
    ∃ verdict, process payload today = .ok verdict ∧
      (verdict.code = .insufficientFunds → ∃ id held needed code,
        Shortfall verdict request.accounts (Envelope.ofVerdict verdict).message id held needed
          code) ∧
      (verdict.code ≠ .insufficientFunds →
        (Envelope.ofVerdict verdict).message = verdict.reason) ∧
      verdict.reason ≠ "" ∧
      (Envelope.ofVerdict verdict).message ∉ defaultMessages ∧
      (Envelope.ofVerdict verdict).status = (if verdict.status = .failed then 400 else 200) := by
  have hshaped := Request.shaped_of_ofValue hshape
  obtain ⟨outcome, hevaluate, hdecided⟩ :=
    evaluate_decided hshaped hdebts request.instruction today
  have hreason := hdecided.ownWords
  refine ⟨_, (process_eq_evaluate hshape today).trans hevaluate, hdecided.shortfall hshaped,
    Envelope.message_of_code_ne hreason, hreason.ne_empty, ?_, Envelope.status_ofVerdict _⟩
  by_cases hcode : (Verdict.ofOutcome outcome).code = .insufficientFunds
  · obtain ⟨_, _, _, _, h⟩ := hdecided.shortfall hshaped hcode
    exact (h.ownWords hreason).notMem_defaultMessages
  · rw [Envelope.message_of_code_ne hreason hcode]
    exact hreason.notMem_defaultMessages

/-- A payment of more than the first of two accounts with the id holds, which is a double. -/
def shortRequest : Request where
  accounts := [⟨"A1", .number (.double .zero), some "ngn"⟩,
    ⟨"A2", .number (.whole 50), some "NGN"⟩, ⟨"A1", .number (.whole 500), some "NGN"⟩]
  instruction := "credit 100 ngn to account A2 for debit from account A1"

theorem process_explains_shortRequest :
    Request.ofValue shortRequest.toValue = .ok shortRequest ∧
    (∀ a ∈ shortRequest.accounts, a.ShortDebt) ∧
    ∃ verdict, process shortRequest.toValue ⟨2026, 1, 15, by decide⟩ = .ok verdict ∧
      verdict.code = .insufficientFunds ∧
      (∃ id held needed code, Shortfall verdict shortRequest.accounts
        (Envelope.ofVerdict verdict).message id held needed code) ∧
      (Envelope.ofVerdict verdict).status = (if verdict.status = .failed then 400 else 200) := by
  have hshaped : ∀ a ∈ shortRequest.accounts, a.Shaped := by decide +kernel
  have hshape : Request.ofValue shortRequest.toValue = .ok shortRequest :=
    Request.ofValue_toValue hshaped
  have hcode : (process shortRequest.toValue ⟨2026, 1, 15, by decide⟩).map Verdict.code =
      .ok .insufficientFunds := by decide +kernel
  have hdebts : ∀ a ∈ shortRequest.accounts, a.ShortDebt := by
    simp [shortRequest, Account.ShortDebt]
  obtain ⟨verdict, hprocess, hshort, _, _, _, hstatus⟩ :=
    process_explains _ _ ⟨2026, 1, 15, by decide⟩ hshape hdebts
  rw [hprocess] at hcode
  have hfunds : verdict.code = .insufficientFunds := Except.ok.inj hcode
  exact ⟨hshape, hdebts, verdict, hprocess, hfunds, hshort hfunds, hstatus⟩

end Remittance
