import Remittance.Process

/-!
# Log of a process

The records that processing one payload leaves behind. What the customer wrote
appears in them only between quotes.
-/

namespace Remittance.Log

/-- How much a record matters. -/
inductive Level where
  | debug
  | info
  | warning
  | error
  | critical
  deriving DecidableEq

namespace Level

def name : Level → String
  | .debug => "DEBUG"
  | .info => "INFO"
  | .warning => "WARNING"
  | .error => "ERROR"
  | .critical => "CRITICAL"

def rank : Level → Nat
  | .debug => 10
  | .info => 20
  | .warning => 30
  | .error => 40
  | .critical => 50

def ofName? (s : String) : Option Level :=
  [Level.debug, .info, .warning, .error, .critical].find? (·.name == s)

end Level

structure Record where
  level : Level
  message : String
  deriving DecidableEq

/-- The name under which the records of a process are logged. -/
def loggerName : String := "app.services.payment_instruction_service"

def unrecognised (token : String) : Record :=
  ⟨.debug, "No recognised instruction type in leading token " ++ Text.quoted token⟩

def processed (v : Verdict) : Record :=
  ⟨.info, "Payment instruction processed | type=" ++
    (v.kind.map Instruction.Kind.word).getD (Value.display .null) ++
    " | status=" ++ v.status.text ++ " | code=" ++ v.code.text⟩

/-- The record of a payload of the wrong shape, from the report on it. -/
def rejected (report : String) : Record :=
  ⟨.warning, "Rejected payment instruction payload: " ++ report⟩

/-- The records of a sentence, before its verdict. -/
def ofTokens (tokens : List String) : List Record :=
  match Instruction.kindOf? tokens, tokens with
  | none, token :: _ => [unrecognised token]
  | _, _ => []

/-- All records of processing a payload. -/
def ofProcess [Validator] (payload : Value) (today : Date) : List Record :=
  match readRequest payload with
  | .error (.payload violations) => [rejected (Validator.report .request payload violations)]
  | .error _ => []
  | .ok request =>
    ofTokens (sentenceTokens request.instruction) ++
      match evaluate request.instruction request.accounts today with
      | .ok verdict => [processed verdict]
      | .error _ => []

/-- The records that a log with the given threshold keeps. -/
def keep (threshold : Level) (records : List Record) : List Record :=
  records.filter fun r => threshold.rank ≤ r.level.rank

end Remittance.Log
