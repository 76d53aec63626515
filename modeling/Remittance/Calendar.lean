/-!
# Calendar dates

The dates of the Gregorian calendar, carried back before its adoption, in the
years 1 to 9999, and their written form `YYYY-MM-DD`. A text that is no date is
diagnosed by its first wrong part.
-/

namespace Remittance

namespace Calendar

/-- Every fourth year has a leap day, but of the centuries only every fourth. -/
def isLeap (year : Nat) : Bool :=
  year % 4 = 0 && (year % 100 ≠ 0 || year % 400 = 0)

def daysInMonth (year month : Nat) : Nat :=
  if month = 2 then (if isLeap year then 29 else 28)
  else if month = 4 ∨ month = 6 ∨ month = 9 ∨ month = 11 then 30
  else 31

def IsDate (year month day : Nat) : Prop :=
  1 ≤ year ∧ year ≤ 9999 ∧ 1 ≤ month ∧ month ≤ 12 ∧ 1 ≤ day ∧ day ≤ daysInMonth year month

instance (year month day : Nat) : Decidable (IsDate year month day) := by
  unfold IsDate
  infer_instance

end Calendar

structure Date where
  year : Nat
  month : Nat
  day : Nat
  isDate : Calendar.IsDate year month day
  deriving DecidableEq

namespace Date

instance : LT Date where
  lt a b := a.year < b.year ∨ a.year = b.year ∧
    (a.month < b.month ∨ a.month = b.month ∧ a.day < b.day)

/-- What keeps a text from being a date. -/
inductive Fault where
  | format
  | month
  | day
  deriving DecidableEq

def Fault.message : Fault → String
  | .format => "Invalid date format: date format is YYYY-MM-DD"
  | .month => "Invalid month, month must be between 1 and 12 in YYYY-MM-DD"
  | .day => "Invalid day, day cannot be greater than 31 in YYYY-MM-DD"

/-- Ten characters with a hyphen after the fourth and after the seventh. -/
def isShaped (cs : List Char) : Bool :=
  cs.length == 10 && cs[4]? == some '-' && cs[7]? == some '-'

/-- Reads a date, or tells what is wrong: the shape and the digits come first,
then the month, then the day of any month, then the day of this month. -/
def ofChars (cs : List Char) : Except Fault Date :=
  let year := cs.take 4
  let month := (cs.drop 5).take 2
  let day := (cs.drop 8).take 2
  if isShaped cs && (year ++ month ++ day).all Char.isDigit then
    let y := Nat.ofDigitChars 10 year 0
    let m := Nat.ofDigitChars 10 month 0
    let d := Nat.ofDigitChars 10 day 0
    if ¬(1 ≤ m ∧ m ≤ 12) then .error .month
    else if ¬(1 ≤ d ∧ d ≤ 31) then .error .day
    else if h : Calendar.IsDate y m d then .ok ⟨y, m, d, h⟩
    else .error .format
  else .error .format

def ofText (s : String) : Except Fault Date :=
  ofChars s.toList

/-- The last `width` decimal digits of a number. -/
def paddedDigits : (width : Nat) → Nat → List Char
  | 0, _ => []
  | width + 1, n => paddedDigits width (n / 10) ++ [Nat.digitChar (n % 10)]

def toChars (d : Date) : List Char :=
  paddedDigits 4 d.year ++ '-' :: paddedDigits 2 d.month ++ '-' :: paddedDigits 2 d.day

def text (d : Date) : String :=
  String.ofList d.toChars

theorem length_paddedDigits (width n : Nat) : (paddedDigits width n).length = width := by
  induction width generalizing n with
  | zero => rfl
  | succ width ih => simp [paddedDigits, ih]

theorem length_toChars (d : Date) : d.toChars.length = 10 := by
  simp [toChars, length_paddedDigits]

end Date

end Remittance
