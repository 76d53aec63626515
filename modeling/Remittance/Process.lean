import Remittance.Request
import Remittance.Verdict

/-!
# Processing a request

A payload is checked for its shape, its sentence is read, the rules are applied to
the accounts it names, and the balances are moved when the payment takes place now.
A payload of the wrong shape has no verdict, and neither has a payment refused for a
balance that is too long to be written.
-/

namespace Remittance

/-- Why there is no verdict: the payload has the wrong shape; the reason of a refusal
holds an integer that is too long to be written; or, on accounts that no shape check has
passed, a snapshot refuses a balance or an amount lies past the numbers that it would
have to become. -/
inductive Failure where
  | payload (violations : List Shape.Violation)
  | unprintable
  | snapshot (violations : List Shape.Violation)
  | overflow
  deriving DecidableEq

section

variable [Validator]

def selectAccounts (accounts : List Account) (debitId creditId : Option String) :
    Except Failure Selection :=
  (Selection.ofIds accounts debitId creditId).mapError .snapshot

/-- Moves the money of a payment that takes place now. -/
def settle (instruction : Instruction) (timing : Timing) (snapshots : List Snapshot) :
    Except Failure (List Snapshot) :=
  match timing with
  | .later => .ok snapshots
  | .now =>
    match Snapshot.transferAll? instruction.debitAccount instruction.creditAccount
        instruction.amount snapshots with
    | some moved => .ok moved
    | none => .error .overflow

def decideInstruction (instruction : Instruction) (accounts : List Account) (today : Date) :
    Except Failure Outcome := do
  let selection ← selectAccounts accounts instruction.debitAccount instruction.creditAccount
  match Rule.check instruction selection.debit selection.credit with
  | .error refusal =>
    match refusal.message? with
    | some reason => return .refused instruction refusal reason selection.snapshots
    | none => throw .unprintable
  | .ok () =>
    let timing := Timing.ofDate (instruction.executeBy.map Date.text) today
    let snapshots ← settle instruction timing selection.snapshots
    return .accepted instruction timing snapshots

/-- What becomes of a sentence given by its tokens. A sentence that cannot be read
still reports the accounts whose ids stand in their places. -/
def decideTokens (tokens : List String) (accounts : List Account) (today : Date) :
    Except Failure Outcome :=
  match Instruction.kindOf? tokens with
  | none => .ok .unrecognised
  | some kind =>
    match Instruction.ofTokens kind tokens with
    | .ok instruction => decideInstruction instruction accounts today
    | .error fault => do
      let fields := Instruction.Fields.ofTokens kind tokens
      let selection ← selectAccounts accounts fields.payer fields.payee
      return .unreadable kind fault selection.snapshots

/-- The tokens of a sentence as it is processed: blanks around it go first. -/
def sentenceTokens (text : String) : List String :=
  Instruction.tokens (Text.trim text)

def evaluate (text : String) (accounts : List Account) (today : Date) : Except Failure Verdict :=
  (decideTokens (sentenceTokens text) accounts today).map Verdict.ofOutcome

def readRequest (payload : Value) : Except Failure Request :=
  (Request.ofValue payload).mapError .payload

def process (payload : Value) (today : Date) : Except Failure Verdict := do
  let request ← readRequest payload
  evaluate request.instruction request.accounts today

end

end Remittance
