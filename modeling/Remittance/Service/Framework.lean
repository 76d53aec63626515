import Remittance.Service.App

/-!
# Serving the application

The framework finds the route of a request, reads its body and answers with what the
application makes of it. It is no part of the program. What the program relies on is told
by `Framework.Documented`; `Framework.standard` keeps to that.
-/

namespace Remittance.Service

/-- What serves an application: how deep the lists and objects of a body may be nested,
the route that a request is handed to, and the answer to a request. -/
structure Framework where
  depth : Nat
  route : Settings → HttpRequest → Option Route
  answer : Settings → App → HttpRequest → Reply

/-- The answer of the application to what was read. -/
def App.reply (app : App) (reading : Json.Reading) : Reply :=
  match app.instructions reading with
  | .ok reply => reply
  | .error raised => app.onRaise raised

/-- What is known of a framework about requests to the route that takes payloads. What was
read from the body is handed to the application. The null value counts as no body. A body
that is JSON, but cannot be read, is answered by the framework itself. -/
structure Framework.Documented (F : Framework) : Prop where
  handed {settings : Settings} {app : App} {request : HttpRequest} {reading : Json.Reading}
    (hroute : F.route settings request = some .instructions)
    (hread : Json.readBytes F.depth request.body = .ok reading)
    (hnull : reading.likeness ≠ .null) : F.answer settings app request = app.reply reading
  absent {settings : Settings} {app : App} {request : HttpRequest} {reading : Json.Reading}
    (hroute : F.route settings request = some .instructions)
    (hread : Json.readBytes F.depth request.body = .ok reading)
    (hnull : reading.likeness = .null) : F.answer settings app request = .invalid 422 ["missing"]
  unread {settings : Settings} {app : App} {request : HttpRequest} {fault : Json.Fault}
    (hroute : F.route settings request = some .instructions)
    (hread : Json.readBytes F.depth request.body = .error fault) (hfault : fault ≠ .malformed) :
    F.answer settings app request = detailReply 400 "There was an error parsing the body"

/-- The answer of the program to a request. -/
def Framework.serve [Validator] (F : Framework) (settings : Settings) (request : HttpRequest)
    (today : Date) : Reply :=
  F.answer settings (app today) request

/-! ## The framework that tries the routes in turn -/

/-- Where a path leads, and the integers that stand in it. -/
structure Target where
  route : Route
  integers : List (List Char)

/-- The target of a path: that of the first route whose template it fits. -/
def Target.ofPath? (settings : Settings) (path : String) : Option Target :=
  Route.all.findSome? fun route =>
    ((route.template settings).integers? path.toList).map fun integers => ⟨route, integers⟩

/-- The integers of a path must not be too long to be read. -/
def Target.isReadable (target : Target) : Bool :=
  target.integers.all fun digits => digits.length ≤ Numeral.maxDigits

/-- The answer to a body that was posted to the route that takes payloads. -/
def App.replyToBody (app : App) (depth : Nat) (body : List UInt8) : Reply :=
  if body.isEmpty then .invalid 422 ["missing"]
  else
    match Json.readBytes depth body with
    | .error .malformed => .invalid 422 ["json_invalid"]
    | .error _ => detailReply 400 "There was an error parsing the body"
    | .ok reading =>
      match reading.likeness with
      | .null => .invalid 422 ["missing"]
      | _ => app.reply reading

/-- The framework whose reader can go down to a given depth. -/
def Framework.standard (depth : Nat) : Framework where
  depth := depth
  route settings request :=
    match Target.ofPath? settings request.path with
    | none => none
    | some target =>
      if target.isReadable ∧ request.method = target.route.method then some target.route else none
  answer settings app request :=
    match Target.ofPath? settings request.path with
    | none => detailReply 404 "Not Found"
    | some target =>
      if ¬ target.isReadable then app.onRaise .other
      else if request.method ≠ target.route.method then detailReply 405 "Method Not Allowed"
      else match target.route with
        | .health => app.health
        | .instructions => app.replyToBody depth request.body

end Remittance.Service
