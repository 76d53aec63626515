import Remittance.Json.Reader

/-!
# Writing JSON

A value is written without blanks, its members in order. An infinity, a value that
is no number and an integer that could not be read again cannot be written.
-/

namespace Remittance.Json

/-- A number, if it can be written. -/
def writeNumber? : Number → Option (List Char)
  | .whole n => if Numeral.isShort n then some (wholeChars n) else none
  | .double x => if x.isFinite then some x.toChars else none

mutual

/-- A value, if every part of it can be written. -/
def writeValue? : Value → Option (List Char)
  | .null => some ['n', 'u', 'l', 'l']
  | .bool b => some (if b then ['t', 'r', 'u', 'e'] else ['f', 'a', 'l', 's', 'e'])
  | .number n => writeNumber? n
  | .text s => some (writeText s.toList)
  | .list [] => some ['[', ']']
  | .list (item :: items) => do
    let head ← writeValue? item
    let tail ← writeItems? items
    return '[' :: head ++ tail
  | .object [] => some ['\x7b', '\x7d']
  | .object ((name, member) :: members) => do
    let head ← writeValue? member
    let tail ← writeMembers? members
    return '\x7b' :: writeText name.toList ++ ':' :: head ++ tail

/-- The items after the first, and the closing bracket. -/
def writeItems? : List Value → Option (List Char)
  | [] => some [']']
  | item :: items => do
    let head ← writeValue? item
    let tail ← writeItems? items
    return ',' :: head ++ tail

/-- The members after the first, and the closing brace. -/
def writeMembers? : List (String × Value) → Option (List Char)
  | [] => some ['\x7d']
  | (name, member) :: members => do
    let head ← writeValue? member
    let tail ← writeMembers? members
    return ',' :: writeText name.toList ++ ':' :: head ++ tail

end

def write? (v : Value) : Option String :=
  (writeValue? v).map String.ofList

end Remittance.Json
