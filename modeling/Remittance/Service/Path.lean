import Remittance.Text.Hex

/-!
# Path templates

A route is given by a template: characters that stand for themselves, and
parameters in braces, `{name}` or `{name:kind}`, each of which stands for a stretch
of the path. A path fits when it can be cut so that every part is met.
-/

namespace Remittance.Service

/-- What may stand in the place of a parameter: a text without a slash, a text on
one line, digits, digits with a fraction, or a universally unique identifier. -/
inductive Parameter where
  | segment
  | path
  | integer
  | decimal
  | uuid
  deriving DecidableEq

namespace Parameter

def ofName? (s : String) : Option Parameter :=
  [("str", Parameter.segment), ("path", .path), ("int", .integer), ("float", .decimal),
    ("uuid", .uuid)].lookup s

/-- The lengths from `most` down to `least`. -/
def lengthsDown (least most : Nat) : List Nat :=
  (List.range' least (most + 1 - least)).reverse

/-- How many leading characters satisfy a test. -/
def leading (p : Char → Bool) (cs : List Char) : Nat :=
  (cs.takeWhile p).length

/-- How many hexadecimal digits stand between the hyphens of an identifier. -/
def uuidWidths : List Nat := [8, 4, 4, 4, 12]

/-- The length of an identifier made of groups of digits; the hyphen between two
groups may be left out. -/
def uuidLength? : (widths : List Nat) → List Char → Option Nat
  | [], _ => some 0
  | width :: widths, cs =>
    if width ≤ leading (fun c => (Text.hexValue? c).isSome) cs then
      let rest := cs.drop width
      if widths ≠ [] ∧ rest.head? = some '-' then
        (uuidLength? widths (rest.drop 1)).map (width + 1 + ·)
      else (uuidLength? widths rest).map (width + ·)
    else none

/-- The lengths of the beginnings that a parameter can stand for, the longest first. -/
def lengths : Parameter → List Char → List Nat
  | .segment, cs => lengthsDown 1 (leading (· != '/') cs)
  | .path, cs => lengthsDown 0 (leading (· != '\n') cs)
  | .integer, cs => lengthsDown 1 (leading Char.isDigit cs)
  | .decimal, cs =>
    let whole := leading Char.isDigit cs
    let fraction :=
      if whole ≠ 0 ∧ (cs.drop whole).head? = some '.' then
        leading Char.isDigit (cs.drop (whole + 1))
      else 0
    (lengthsDown 1 fraction).map (whole + 1 + ·) ++ lengthsDown 1 whole
  | .uuid, cs => (uuidLength? uuidWidths cs).toList

end Parameter

inductive PathPart where
  | exact (c : Char)
  | parameter (kind : Parameter)
  deriving DecidableEq

/-- The parts that a path must consist of. -/
abbrev PathTemplate := List PathPart

namespace PathTemplate

/-! ## Reading templates -/

def isNameChar (c : Char) : Bool :=
  c.isAlphanum || c == '_'

/-- The name at the start of a text, if there is one, and what follows it. A name
does not start with a digit. -/
def spanName? (cs : List Char) : Option (List Char × List Char) :=
  match cs.takeWhile isNameChar with
  | [] => none
  | c :: name => if c.isDigit then none else some (c :: name, cs.dropWhile isNameChar)

/-- The parameter that follows an opening brace, and how many characters it takes. -/
def parameter? (cs : List Char) : Option (Parameter × Nat) := do
  let (name, rest) ← spanName? cs
  match rest with
  | '\x7d' :: _ => return (.segment, name.length + 1)
  | ':' :: rest => do
    let (kind, rest) ← spanName? rest
    guard (rest.head? = some '\x7d')
    let parameter ← Parameter.ofName? (String.ofList kind)
    return (parameter, name.length + kind.length + 2)
  | _ => none

/-- The parts of a template, of whose characters the first ones have been taken. A
brace that opens no parameter stands for itself. -/
def ofChars : (taken : Nat) → List Char → PathTemplate
  | _, [] => []
  | taken + 1, _ :: cs => ofChars taken cs
  | 0, c :: cs =>
    match if c = '\x7b' then parameter? cs else none with
    | some (kind, taken) => .parameter kind :: ofChars taken cs
    | none => .exact c :: ofChars 0 cs

def ofText (s : String) : PathTemplate :=
  ofChars 0 s.toList

/-! ## Fitting paths -/

/-- The integers that stand in a path, if the path fits. Each parameter takes as much
as it can; a line break at the end of the path is overlooked. -/
def integers? : PathTemplate → List Char → Option (List (List Char))
  | [], cs => if cs = [] ∨ cs = ['\n'] then some [] else none
  | .exact c :: parts, cs =>
    match cs with
    | d :: cs => if c = d then integers? parts cs else none
    | [] => none
  | .parameter kind :: parts, cs =>
    (kind.lengths cs).findSome? fun n =>
      (integers? parts (cs.drop n)).map fun found =>
        if kind = .integer then cs.take n :: found else found

end PathTemplate

end Remittance.Service
