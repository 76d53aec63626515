import Remittance.Number.Shortest

/-!
# Written numbers

A double-precision number is written with the fewest digits that read back, in
positional notation for decimal exponents from -4 to 15 and with a power of ten
otherwise. Positional notation always shows a point; the power always shows a sign
and at least two digits.
-/

namespace Remittance

def wholeChars (n : Int) : List Char :=
  match n with
  | .ofNat n => Nat.toDigits 10 n
  | .negSucc n => '-' :: Nat.toDigits 10 (n + 1)

def wholeText (n : Int) : String :=
  String.ofList (wholeChars n)

/-- The text of an integer, if it is short enough to have one. -/
def wholeText? (n : Int) : Option String :=
  if Numeral.isShort n then some (wholeText n) else none

namespace Binary64

/-- The smallest decimal exponent written in positional notation. -/
def positionalFrom : Int := -4

/-- The smallest decimal exponent too large for positional notation. -/
def positionalBelow : Int := 16

/-- Digits with a point after the first `point` of them, zeros filling the gap on
either side. -/
def positionalChars (digits : List Char) (point : Int) : List Char :=
  if point ≤ 0 then '0' :: '.' :: List.replicate (-point).toNat '0' ++ digits
  else
    let k := point.toNat
    if digits.length ≤ k then digits ++ List.replicate (k - digits.length) '0' ++ ['.', '0']
    else digits.take k ++ '.' :: digits.drop k

/-- Digits with a point after the first one, and a power of ten. -/
def scientificChars (digits : List Char) (exponent : Int) : List Char :=
  let power := Nat.toDigits 10 exponent.natAbs
  let fraction := digits.drop 1
  digits.take 1 ++ (if fraction.isEmpty then [] else '.' :: fraction) ++
    'e' :: (if exponent < 0 then '-' else '+') :: List.replicate (2 - power.length) '0' ++ power

def magnitudeChars (m : Magnitude) : List Char :=
  if m.units = 0 then ['0', '.', '0']
  else
    let (whole, exponent) := m.shortest
    let digits := Nat.toDigits 10 whole
    let point := digits.length + exponent
    if positionalFrom ≤ point - 1 ∧ point - 1 < positionalBelow then positionalChars digits point
    else scientificChars digits (point - 1)

def toChars : Binary64 → List Char
  | .finite negative magnitude =>
    if negative then '-' :: magnitudeChars magnitude else magnitudeChars magnitude
  | .infinite negative => if negative then ['-', 'i', 'n', 'f'] else ['i', 'n', 'f']
  | .nan => ['n', 'a', 'n']

def text (x : Binary64) : String :=
  String.ofList x.toChars

/-- The double-precision number written by a text: a numeral, `inf`, `-inf` or
`nan`. -/
def ofText? (s : String) : Option Binary64 :=
  if s = "inf" then some (.infinite false)
  else if s = "-inf" then some (.infinite true)
  else if s = "nan" then some .nan
  else match Numeral.scan s.toList with
    | some (numeral, []) => some numeral.toBinary64
    | _ => none

end Binary64

end Remittance
