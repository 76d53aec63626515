import Remittance.Number.Binary64

/-!
# Decimal numerals

A numeral as it is written: an optional minus, digits before and after a point,
an optional power of ten. It denotes an integer when it has neither point nor
power, and otherwise the nearest double-precision number.
-/

namespace Remittance

/-- A written decimal number, split into its parts. -/
structure Numeral where
  negative : Bool
  whole : List Char
  fraction : Option (List Char) := none
  exponent : Option Int := none
  deriving DecidableEq

namespace Binary64

/-- The number nearest to `digits · 10 ^ exponent`. Powers far outside the range
are settled by their size alone. -/
def ofDecimal (negative : Bool) (digits : Nat) (exponent : Int) : Binary64 :=
  if digits = 0 then .finite negative .zero
  else match exponent with
    | .ofNat e =>
      if 310 ≤ e then .infinite negative
      else ofRatio negative (digits * Nat.pow 10 e * unitsPerOne) 1
    | .negSucc e =>
      if digits.log2 + 1100 < e then .finite negative .zero
      else ofRatio negative (digits * unitsPerOne) (Nat.pow 10 (e + 1))

end Binary64

namespace Numeral

/-- The longest integer that is read or written, in digits. -/
def maxDigits : Nat := 4300

def isShort (n : Int) : Bool :=
  (Nat.toDigits 10 n.natAbs).length ≤ maxDigits

theorem isShort_iff {n : Int} :
    isShort n = true ↔ (Nat.toDigits 10 n.natAbs).length ≤ maxDigits :=
  decide_eq_true_iff

def isWhole (n : Numeral) : Bool :=
  n.fraction.isNone && n.exponent.isNone

/-- The digits before the point, as an integer. -/
def toInt (n : Numeral) : Int :=
  let magnitude := Nat.ofDigitChars 10 n.whole 0
  if n.negative then -(magnitude : Int) else magnitude

def toBinary64 (n : Numeral) : Binary64 :=
  let fraction := n.fraction.getD []
  .ofDecimal n.negative (Nat.ofDigitChars 10 (n.whole ++ fraction) 0)
    (n.exponent.getD 0 - fraction.length)

/-! ## Reading

Each part takes as many characters as belong to it and hands on the rest. A point
without a digit after it, or a power without digits, is left unread. -/

/-- The leading digits, and what follows them. -/
def spanDigits (cs : List Char) : List Char × List Char :=
  (cs.takeWhile Char.isDigit, cs.dropWhile Char.isDigit)

/-- The digits before the point: a lone zero, or digits that do not start with
one. -/
def scanWhole : List Char → Option (List Char × List Char)
  | [] => none
  | c :: cs =>
    if c = '0' then some (['0'], cs)
    else if c.isDigit then some (spanDigits (c :: cs))
    else none

/-- A point with the digits after it. -/
def scanFraction : List Char → Option (List Char) × List Char
  | '.' :: cs =>
    match spanDigits cs with
    | ([], _) => (none, '.' :: cs)
    | (digits, rest) => (some digits, rest)
  | cs => (none, cs)

/-- The sign of a power of ten: `true` for a minus. -/
def scanSign : List Char → Bool × List Char
  | '-' :: cs => (true, cs)
  | '+' :: cs => (false, cs)
  | cs => (false, cs)

/-- A power of ten, introduced by `e` or `E`. -/
def scanExponent : List Char → Option Int × List Char
  | [] => (none, [])
  | c :: cs =>
    if c = 'e' ∨ c = 'E' then
      let (negative, unsigned) := scanSign cs
      match spanDigits unsigned with
      | ([], _) => (none, c :: cs)
      | (digits, rest) =>
        let magnitude := Nat.ofDigitChars 10 digits 0
        (some (if negative then -(magnitude : Int) else magnitude), rest)
    else (none, c :: cs)

def scanUnsigned (negative : Bool) (cs : List Char) : Option (Numeral × List Char) :=
  (scanWhole cs).map fun (whole, rest) =>
    let (fraction, rest) := scanFraction rest
    let (exponent, rest) := scanExponent rest
    ({ negative, whole, fraction, exponent }, rest)

/-- The numeral at the start of a list of characters, and what follows it. -/
def scan : List Char → Option (Numeral × List Char)
  | '-' :: cs => scanUnsigned true cs
  | cs => scanUnsigned false cs

end Numeral

end Remittance
