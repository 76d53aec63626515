/-!
# Surrogate halves

A character past the sixteen-bit plane is written as two code units, the halves of
a surrogate pair. Two halves in order are one character; a half that stands alone
is none.
-/

namespace Remittance.Text

def isHighHalf (n : Nat) : Bool :=
  0xD800 ≤ n && n ≤ 0xDBFF

def isLowHalf (n : Nat) : Bool :=
  0xDC00 ≤ n && n ≤ 0xDFFF

def isHalf (n : Nat) : Bool :=
  isHighHalf n || isLowHalf n

/-- The code points of a list of code units: the halves of each pair are joined, and
halves that stand alone stay. -/
def joinHalves : List Nat → List Nat
  | high :: low :: rest =>
    if isHighHalf high && isLowHalf low then
      (0x10000 + (high - 0xD800) * 0x400 + (low - 0xDC00)) :: joinHalves rest
    else high :: joinHalves (low :: rest)
  | units => units

/-- The characters of code points, if there is a character to put in the place of each
half. -/
def ofPoints? (lone : Option Char) (points : List Nat) : Option (List Char) :=
  points.mapM fun n => if isHalf n then lone else some (Char.ofNat n)

example : joinHalves [0x46, 0xD83D, 0xDE00, 0xD83D] = [0x46, 0x1F600, 0xD83D] := by decide
example : ofPoints? none [0x46, 0xD83D] = none := by decide

/-- A character is no half. -/
theorem isHalf_toNat (c : Char) : isHalf c.toNat = false := by
  have hv := c.valid
  simp only [UInt32.isValidChar, Nat.isValidChar] at hv
  simp only [isHalf, isHighHalf, isLowHalf, Char.toNat, Bool.or_eq_false_iff,
    Bool.and_eq_false_iff, decide_eq_false_iff_not]
  omega

/-- The code points of characters give them back, whatever stands for a half. -/
theorem ofPoints?_toNat (lone : Option Char) (cs : List Char) :
    ofPoints? lone (cs.map Char.toNat) = some cs := by
  induction cs with
  | nil => rfl
  | cons c cs ih =>
      rw [ofPoints?] at ih
      rw [ofPoints?, List.map_cons, List.mapM_cons, isHalf_toNat, if_neg Bool.false_ne_true, ih]
      simp

end Remittance.Text
