import Remittance.Json.Text
import Remittance.Value

/-!
# Reading JSON

A text is read as one value with blanks around it. Beyond the standard, the numbers
`NaN`, `Infinity` and `-Infinity` are known; an integer may have at most 4300
digits, and lists and objects may be nested to a given depth. An integer that is too
long and a nesting that is too deep are faults of their own, and so is half of a
surrogate pair, unless a character is given that takes its place. The first fault from
the left is the one reported.
-/

namespace Remittance.Json

/-- Why a text could not be read, or its bytes not be taken for a text. -/
inductive Fault where
  | malformed
  | integerTooLong
  | tooDeep
  | undecodable
  | loneHalf
  deriving DecidableEq

def isSpace (c : Char) : Bool :=
  c == ' ' || c == '\t' || c == '\n' || c == '\r'

def skipSpace (cs : List Char) : List Char :=
  cs.dropWhile isSpace

/-! Each part of the reader yields what it read and what follows. -/

section

-- the character that takes the place of a half that stands alone
variable (lone : Option Char)

/-- The text behind an opening quote. -/
def readText (cs : List Char) : Except Fault (String × List Char) :=
  match readUnits? cs with
  | none => .error .malformed
  | some (units, rest) =>
    match Text.ofPoints? lone (Text.joinHalves units) with
    | none => .error .loneHalf
    | some text => .ok (String.ofList text, rest)

def readNumber (cs : List Char) : Except Fault (Value × List Char) :=
  match Numeral.scan cs with
  | none => .error .malformed
  | some (numeral, rest) =>
    if numeral.isWhole then
      if Numeral.maxDigits < numeral.whole.length then .error .integerTooLong
      else .ok (.number (.whole numeral.toInt), rest)
    else .ok (.number (.double numeral.toBinary64), rest)

def readAtom : List Char → Except Fault (Value × List Char)
  | 'n' :: 'u' :: 'l' :: 'l' :: cs => .ok (.null, cs)
  | 't' :: 'r' :: 'u' :: 'e' :: cs => .ok (.bool true, cs)
  | 'f' :: 'a' :: 'l' :: 's' :: 'e' :: cs => .ok (.bool false, cs)
  | 'N' :: 'a' :: 'N' :: cs => .ok (.number (.double .nan), cs)
  | 'I' :: 'n' :: 'f' :: 'i' :: 'n' :: 'i' :: 't' :: 'y' :: cs =>
    .ok (.number (.double (.infinite false)), cs)
  | '-' :: 'I' :: 'n' :: 'f' :: 'i' :: 'n' :: 'i' :: 't' :: 'y' :: cs =>
    .ok (.number (.double (.infinite true)), cs)
  | cs => readNumber cs

def readName : List Char → Except Fault (String × List Char)
  | '"' :: cs => do
    let (name, rest) ← readText lone cs
    match skipSpace rest with
    | ':' :: rest => return (name, skipSpace rest)
    | _ => throw .malformed
  | _ => .error .malformed

mutual

/-- A value whose lists and objects are nested at most to the given depth. Each level
of nesting takes a character and at most two units of fuel. -/
def readValue : (fuel depth : Nat) → List Char → Except Fault (Value × List Char)
  | 0, _, _ => .error .malformed
  | fuel + 1, depth, cs =>
    match cs, depth with
    | '"' :: cs, _ => do
      let (s, rest) ← readText lone cs
      return (.text s, rest)
    | '[' :: _, 0 => .error .tooDeep
    | '[' :: cs, depth + 1 =>
      match skipSpace cs with
      | ']' :: rest => .ok (.list [], rest)
      | cs => do
        let (items, rest) ← readItems fuel depth cs
        return (.list items, rest)
    | '\x7b' :: _, 0 => .error .tooDeep
    | '\x7b' :: cs, depth + 1 =>
      match skipSpace cs with
      | '\x7d' :: rest => .ok (.object [], rest)
      | cs => do
        let (members, rest) ← readMembers fuel depth cs
        return (.object members, rest)
    | cs, _ => readAtom cs

def readItems : (fuel depth : Nat) → List Char → Except Fault (List Value × List Char)
  | 0, _, _ => .error .malformed
  | fuel + 1, depth, cs => do
    let (item, rest) ← readValue fuel depth cs
    match skipSpace rest with
    | ']' :: rest => return ([item], rest)
    | ',' :: rest => do
      let (items, rest) ← readItems fuel depth (skipSpace rest)
      return (item :: items, rest)
    | _ => throw .malformed

def readMembers : (fuel depth : Nat) → List Char →
    Except Fault (List (String × Value) × List Char)
  | 0, _, _ => .error .malformed
  | fuel + 1, depth, cs => do
    let (name, rest) ← readName lone cs
    let (member, rest) ← readValue fuel depth rest
    match skipSpace rest with
    | '\x7d' :: rest => return ([(name, member)], rest)
    | ',' :: rest => do
      let (members, rest) ← readMembers fuel depth (skipSpace rest)
      return ((name, member) :: members, rest)
    | _ => throw .malformed

end

/-- Reads a text that holds one value and nothing else, nested at most to the given
depth. -/
def readChars (depth : Nat) (cs : List Char) : Except Fault Value := do
  let (value, rest) ← readValue lone (2 * cs.length + 1) depth (skipSpace cs)
  match skipSpace rest with
  | [] => return value
  | _ => throw .malformed

end

/-- Reads a text that has no halves standing alone, escaped or not. -/
def read (depth : Nat) (s : String) : Except Fault Value :=
  readChars none depth s.toList

end Remittance.Json
