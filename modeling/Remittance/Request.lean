import Remittance.Account.Basic

/-!
# Requests

The payload of a request: the accounts that the customer may use, and the sentence
that says what to do. Members that the request does not know are ignored.
-/

namespace Remittance

/-- A payload of the right shape. -/
structure Request where
  accounts : List Account
  instruction : String

namespace Request

/-- The texts of a request. -/
def texts (r : Request) : List String :=
  r.instruction :: r.accounts.flatMap fun a => a.id :: a.currency.toList

/-- What a payload should be. -/
def schema : Schema (List (String × (Int ⊕ Binary64) × String × Unit) × String × Unit) :=
  .record .request (.cons "accounts" (.list Account.schema) (.cons "instruction" .text .nil))

def ofData : List (String × (Int ⊕ Binary64) × String × Unit) × String × Unit → Request
  | (accounts, instruction, ()) => ⟨accounts.map Account.ofData, instruction⟩

section

variable [Validator]

def ofValue (v : Value) : Checked Request :=
  (Validator.check schema v).map ofData

/-- The accounts of a payload, from what stands in their place. -/
def accountsOf (v : Option Value) : Checked (List Account) :=
  (Validator.member "accounts" (.list Account.schema) v).map (List.map Account.ofData)

end

/-- The payload that holds accounts and an instruction, of whatever shape. -/
def payload (accounts instruction : Value) : Value :=
  .object [("accounts", accounts), ("instruction", instruction)]

def accountsValue (accounts : List Account) : Value :=
  .list (accounts.map Account.toValue)

def toValue (r : Request) : Value :=
  payload (accountsValue r.accounts) (.text r.instruction)

/-- The message on a payload of the wrong shape, from the report on it. -/
def refusalMessage (report : String) : String :=
  "Invalid payment instruction payload: " ++ report

end Request

end Remittance
