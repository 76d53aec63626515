import Remittance.Number.Text

/-!
# Shapes

A check of a value either yields what the value was meant to be or lists every
violation, each with the path that leads to it. Checks of several parts are joined so
that no violation of one part hides those of another.
-/

namespace Remittance

namespace Shape

inductive Step where
  | member (name : String)
  | item (index : Nat)
  deriving DecidableEq

/-- The records that are checked. -/
inductive Record where
  | request
  | account
  | snapshot
  deriving DecidableEq

def Record.name : Record → String
  | .request => "PaymentInstructionRequest"
  | .account => "AccountIn"
  | .snapshot => "AccountSnapshot"

/-- The first line of a report on violations. -/
def Record.heading (record : Record) (count : Nat) : String :=
  wholeText count ++ (if count = 1 then " validation error for " else " validation errors for ") ++
    record.name

/-- The report tells in its first line how many violations a record has. -/
def Record.Heads (record : Record) (count : Nat) (report : String) : Prop :=
  report = record.heading count ∨ ∃ lines, report = record.heading count ++ "\n" ++ lines

/-- What is wrong at one place. -/
inductive Problem where
  | notObject (record : Record)
  | missing
  | notList
  | notText
  | notInteger
  | notNumber
  | notFinite
  deriving DecidableEq

/-- The word for a problem that programs look at. -/
def Problem.tag : Problem → String
  | .notObject _ => "model_type"
  | .missing => "missing"
  | .notList => "list_type"
  | .notText => "string_type"
  | .notInteger => "int_type"
  | .notNumber => "float_type"
  | .notFinite => "finite_number"

/-- The sentence for a problem that people read. -/
def Problem.message : Problem → String
  | .notObject record => "Input should be a valid dictionary or instance of " ++ record.name
  | .missing => "Field required"
  | .notList => "Input should be a valid list"
  | .notText => "Input should be a valid string"
  | .notInteger => "Input should be a valid integer"
  | .notNumber => "Input should be a valid number"
  | .notFinite => "Input should be a finite number"

structure Violation where
  path : List Step
  problem : Problem
  deriving DecidableEq

/-- A violation of a part, as one of the whole. -/
def Violation.under (step : Step) (x : Violation) : Violation :=
  ⟨step :: x.path, x.problem⟩

end Shape

open Shape

/-- The outcome of a check: a value, or all violations in order. -/
abbrev Checked (α : Type) := Except (List Violation) α

namespace Checked

def under {α : Type} (step : Step) (c : Checked α) : Checked α :=
  c.mapError (List.map (Violation.under step))

/-- The outcome for a member, which is missing when there is nothing to check. -/
def member {α : Type} (name : String) : Option (Checked α) → Checked α
  | none => .error [⟨[.member name], .missing⟩]
  | some c => c.under (.member name)

def both {α β : Type} : Checked α → Checked β → Checked (α × β)
  | .ok a, .ok b => .ok (a, b)
  | .ok _, .error ys => .error ys
  | .error xs, .ok _ => .error xs
  | .error xs, .error ys => .error (xs ++ ys)

def all {α : Type} : List (Checked α) → Checked (List α)
  | [] => .ok []
  | c :: cs => (both c (all cs)).map fun (a, as) => a :: as

/-- The outcome for a value that is the one or the other. What is neither violates both,
each under its own name. -/
def either {α β : Type} (first second : String) : Checked α → Checked β → Checked (α ⊕ β)
  | .ok a, _ => .ok (.inl a)
  | .error _, .ok b => .ok (.inr b)
  | .error xs, .error ys =>
    .error (xs.map (Violation.under (.member first)) ++
      ys.map (Violation.under (.member second)))

end Checked

end Remittance
