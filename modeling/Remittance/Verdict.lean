import Remittance.Account.Snapshot
import Remittance.Rule

/-!
# Verdicts

What became of a sentence, and the flat record in which it is published. The
record fills in what is known: nothing of a sentence without a kind, only the kind
of one that could not be read, and every field of one that could.
-/

namespace Remittance

/-- What became of a sentence. A payment that a rule refuses has the reason in words. -/
inductive Outcome where
  | unrecognised
  | unreadable (kind : Instruction.Kind) (fault : Instruction.Fault) (accounts : List Snapshot)
  | refused (instruction : Instruction) (refusal : Refusal) (reason : String)
      (accounts : List Snapshot)
  | accepted (instruction : Instruction) (timing : Timing) (accounts : List Snapshot)

/-- The published answer to a sentence. -/
structure Verdict where
  kind : Option Instruction.Kind := none
  amount : Option Int := none
  currency : Option String := none
  debitAccount : Option String := none
  creditAccount : Option String := none
  executeBy : Option String := none
  status : Status
  reason : String
  code : Code
  accounts : List Snapshot := []
  deriving DecidableEq

namespace Verdict

def ofInstruction (i : Instruction) (status : Status) (reason : String) (code : Code)
    (accounts : List Snapshot) : Verdict where
  kind := some i.kind
  amount := some i.amount
  currency := some i.currency.code
  debitAccount := some i.debitAccount
  creditAccount := some i.creditAccount
  executeBy := i.executeBy.map Date.text
  status := status
  reason := reason
  code := code
  accounts := accounts

def unrecognisedReason : String := "Malformed instruction: unable to parse keywords"

def ofOutcome : Outcome → Verdict
  | .unrecognised => { status := .failed, reason := unrecognisedReason, code := .malformed }
  | .unreadable kind fault accounts =>
    { kind := some kind, status := .failed, reason := fault.message, code := fault.code, accounts }
  | .refused instruction refusal reason accounts =>
    ofInstruction instruction .failed reason refusal.code accounts
  | .accepted instruction timing accounts =>
    ofInstruction instruction timing.status timing.message timing.code accounts

end Verdict

end Remittance
