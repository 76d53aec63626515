import Remittance.Answer
import Remittance.Json.Encoding
import Remittance.Process
import Remittance.Service.Path
import Remittance.Service.Settings

/-!
# The application

What the program hands to the framework that serves it: two routes, one of which takes a
payload and answers with an envelope, while the other tells that the service is alive;
what is done with a body that was read; and the answers to whatever is raised.
-/

namespace Remittance.Service

/-- A request whose content is JSON. The body is given by its bytes. -/
structure HttpRequest where
  method : String
  path : String
  body : List UInt8

/-- An answer: a status with a written body, or a status with the kinds of what is wrong
with a body. The answer to a payload that holds halves of surrogate pairs is left untold. -/
inductive Reply where
  | json (status : Nat) (body : String)
  | invalid (status : Nat) (kinds : List String)
  | untold
  deriving DecidableEq

def detailBody (detail : String) : String :=
  String.ofList ("\x7b\"detail\":".toList ++ Json.writeText detail.toList ++ ['\x7d'])

def detailReply (status : Nat) (detail : String) : Reply :=
  .json status (detailBody detail)

/-! ## Errors -/

/-- An error of the application, with the status it is answered with. -/
structure AppError where
  message : String
  status : Nat := 400
  deriving DecidableEq

/-- The error of a payload of the wrong shape. -/
def AppError.validation (message : String) : AppError :=
  ⟨message, 422⟩

/-- What is raised in place of an answer: an error of the application, or one that the
customer has no part in. -/
inductive Raised where
  | app (e : AppError)
  | other
  deriving DecidableEq

def Raised.reply : Raised → Reply
  | .app e => detailReply e.status e.message
  | .other => detailReply 500 "Internal server error"

/-! ## Payloads -/

/-- The answer that carries an envelope; there is none when it cannot be written. -/
def envelopeReply (e : Envelope) : Except Raised Reply :=
  match Json.write? e.toValue with
  | some body => .ok (.json e.status body)
  | none => .error .other

section

variable [Validator]

/-- What is raised for a payload of the wrong shape. -/
def refusal (payload : Value) (violations : List Shape.Violation) : Raised :=
  .app (.validation (Request.refusalMessage (Validator.report .request payload violations)))

def answerPayload (payload : Value) (today : Date) : Except Raised Reply :=
  match process payload today with
  | .ok verdict => envelopeReply (.ofVerdict verdict)
  | .error (.payload violations) => .error (refusal payload violations)
  | .error _ => .error .other

/-- The answer to what was read from a body. The requests of the two likenesses have the same
texts, unless one of these holds a half of a surrogate pair. -/
def answerReading (reading : Json.Reading) (today : Date) : Except Raised Reply :=
  match Request.ofValue reading.likeness, Request.ofValue reading.other with
  | .ok request, .ok other =>
    if request.texts = other.texts then answerPayload reading.likeness today else .ok .untold
  | _, _ => answerPayload reading.likeness today

end

/-! ## Routes -/

/-- What a path leads to. -/
inductive Route where
  | instructions
  | health
  deriving DecidableEq

namespace Route

/-- The routes in the order in which they are tried. -/
def all : List Route := [.instructions, .health]

/-- The template of the paths that lead to a route. -/
def template (settings : Settings) : Route → PathTemplate
  | .instructions => .ofText (settings.apiPrefix ++ "/payment-instructions")
  | .health => .ofText "/health"

def method : Route → String
  | .instructions => "POST"
  | .health => "GET"

end Route

/-- What stands behind the routes, and the answers to what is raised there. -/
structure App where
  instructions : Json.Reading → Except Raised Reply
  health : Reply
  onRaise : Raised → Reply

def app [Validator] (today : Date) : App where
  instructions reading := answerReading reading today
  health := .json 200 "\x7b\"status\":\"ok\"\x7d"
  onRaise := Raised.reply

end Remittance.Service
