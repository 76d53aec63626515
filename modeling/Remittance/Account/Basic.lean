import Remittance.Currency
import Remittance.Schema

/-!
# Accounts

An account as the customer names it. Until a shape check has passed, its balance
can be anything and its currency can be absent.
-/

namespace Remittance

/-- A balance should be an integer or a finite number. -/
def Number.schema : Schema (Int ⊕ Binary64) :=
  .either .integer .finite

def Number.ofSum : Int ⊕ Binary64 → Number
  | .inl n => .whole n
  | .inr x => .double x

structure Account where
  id : String
  balance : Value
  currency : Option String

namespace Account

/-- The currency in capitals. -/
def currencyCode (a : Account) : String :=
  Currency.normalise a.currency

/-- The first account with the given id. -/
def find? (accounts : List Account) (id : Option String) : Option Account :=
  id.bind fun id => accounts.find? (·.id == id)

/-- The place of the first account with the given id. -/
def position? (accounts : List Account) (id : Option String) : Option Nat :=
  id.bind fun id => accounts.findIdx? (·.id == id)

/-- What an account of a payload should be. -/
def schema : Schema (String × (Int ⊕ Binary64) × String × Unit) :=
  .record .account
    (.cons "id" .text (.cons "balance" Number.schema (.cons "currency" .text .nil)))

def ofData : String × (Int ⊕ Binary64) × String × Unit → Account
  | (id, balance, currency, ()) => ⟨id, .number (.ofSum balance), some currency⟩

def ofValue [Validator] (v : Value) : Checked Account :=
  (Validator.check schema v).map ofData

def toValue (a : Account) : Value :=
  .object [("id", .text a.id), ("balance", a.balance),
    ("currency", (a.currency.map Value.text).getD .null)]

/-- A found account has the id that was looked for, and is in the list. -/
theorem of_find?_eq_some {accounts : List Account} {id : String} {a : Account}
    (h : find? accounts (some id) = some a) : a.id = id ∧ a ∈ accounts := by
  have hp := List.find?_some h
  exact ⟨by simpa using hp, List.mem_of_find?_eq_some h⟩

end Account

end Remittance
