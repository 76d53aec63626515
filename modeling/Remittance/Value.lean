import Remittance.Number.Basic
import Remittance.Text.Quoted

/-!
# Values of unknown shape

What a customer may send before anyone has looked at it: nothing, truth values,
numbers, texts, lists and records with named members.
-/

namespace Remittance

/-- A value whose shape is not known. The members of an object keep their order. -/
inductive Value where
  | null
  | bool (value : Bool)
  | number (value : Number)
  | text (value : String)
  | list (items : List Value)
  | object (members : List (String × Value))

namespace Value

/-- The member of an object with a given name; of several the last one counts. -/
def lookup (name : String) (members : List (String × Value)) : Option Value :=
  (members.reverse.find? (·.1 == name)).map (·.2)

/-- The value, compared with an integer, is at least as large. A truth value
counts as one or zero; of two numbers that cannot be compared neither is smaller;
what is no number at all reaches no integer. -/
def reaches : Value → Int → Bool
  | .number value, n => !value.ltInt n
  | .bool value, n => n ≤ if value then 1 else 0
  | _, _ => false

/-! ## Display -/

def boolText (b : Bool) : String :=
  if b then "True" else "False"

mutual

/-- A value as a part of a larger one: texts are quoted. -/
def display : Value → String
  | .null => "None"
  | .bool value => boolText value
  | .number value => value.text
  | .text value => Text.quoted value
  | .list items => "[" ++ displayItems "" items ++ "]"
  | .object members => "\x7b" ++ displayMembers "" members ++ "\x7d"

/-- The items of a list, with a separator before each but the first. -/
def displayItems (separator : String) : List Value → String
  | [] => ""
  | item :: items => separator ++ display item ++ displayItems ", " items

def displayMembers (separator : String) : List (String × Value) → String
  | [] => ""
  | (name, member) :: members =>
    separator ++ Text.quoted name ++ ": " ++ display member ++ displayMembers ", " members

end

/-- A value as it stands in a message: a text of its own is shown bare. -/
def shown : Value → String
  | .text value => value
  | value => display value

mutual

/-- Every number of the value can be written. -/
def isShort : Value → Bool
  | .number value => value.isShort
  | .list items => itemsShort items
  | .object members => membersShort members
  | _ => true

def itemsShort : List Value → Bool
  | [] => true
  | item :: items => isShort item && itemsShort items

def membersShort : List (String × Value) → Bool
  | [] => true
  | (_, member) :: members => isShort member && membersShort members

end

/-- A value as it stands in a message, if it can be written. -/
def shown? (v : Value) : Option String :=
  if v.isShort then some v.shown else none

/-- A value for a reader of amounts; nothing shows as an empty text. -/
def amountText : Value → String
  | .null => ""
  | .number value => value.amountText
  | value => shown value

end Value

end Remittance
