import Remittance.Number.Text

/-!
# Numbers of an account

A balance is a whole number of any size or a double-precision number, and keeps
its kind when money moves. Whole numbers are exact; an amount that meets a
double-precision balance is first rounded to one itself.
-/

namespace Remittance

inductive Number where
  | whole (value : Int)
  | double (value : Binary64)
  deriving DecidableEq

namespace Number

/-- The number plus an integer. There is none when the integer lies past the
double-precision numbers that it would have to become. -/
def plus? : Number → Int → Option Number
  | .whole value, n => some (.whole (value + n))
  | .double value, n => (Binary64.ofInt? n).map fun x => .double (value.add x)

/-- The number minus an integer, under the same limit. -/
def minus? : Number → Int → Option Number
  | .whole value, n => some (.whole (value - n))
  | .double value, n => (Binary64.ofInt? n).map fun x => .double (value.sub x)

def ltInt : Number → Int → Bool
  | .whole value, n => value < n
  | .double value, n => value.ltInt n

def isFinite : Number → Bool
  | .whole _ => true
  | .double value => value.isFinite

/-- The number can be written. -/
def isShort : Number → Bool
  | .whole value => Numeral.isShort value
  | .double _ => true

def text : Number → String
  | .whole value => wholeText value
  | .double value => value.text

/-- The text of a number for a reader of amounts: a number that is equal to an
integer shows as that integer, whatever its kind. -/
def amountText : Number → String
  | .whole value => wholeText value
  | .double value =>
    match value.toInt? with
    | some n => wholeText n
    | none => value.text

end Number

end Remittance
