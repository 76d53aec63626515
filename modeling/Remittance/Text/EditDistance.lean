/-!
# Edit distance

The least number of single-character insertions, deletions and replacements
between two texts, computed one row at a time, and the near misses that a
misspelt keyword is recognised by: one such edit, or two neighbours swapped.
-/

namespace Remittance.Text

/-- The entries of a row behind its first one. `left` is the entry written last, and the row
above is read from the entry over it, which is the one diagonal to the next. -/
def restOfRow (x : Char) (left : Nat) : List Char → List Nat → List Nat
  | y :: ys, diagonal :: above :: row =>
    let entry := min (min (above + 1) (left + 1)) (diagonal + if x = y then 0 else 1)
    entry :: restOfRow x entry ys (above :: row)
  | _, _ => []

/-- The row under `row`, for the next character of the first text and its number. -/
def nextRow (ys : List Char) (row : List Nat) (next : Char × Nat) : List Nat :=
  next.2 :: restOfRow next.1 next.2 ys row

/-- The last row of the table, one column for each beginning of the second text. -/
def distanceRow (xs ys : List Char) : List Nat :=
  (xs.zipIdx 1).foldl (nextRow ys) (List.range (ys.length + 1))

/-- The number of single-character edits that turn `a` into `b`. -/
def editDistance (a b : String) : Nat :=
  if a = b then 0
  else if a.isEmpty then b.length
  else if b.isEmpty then a.length
  else (distanceRow a.toList b.toList).getLastD 0

/-- The places at which two lists differ. -/
def differences (xs ys : List Char) : List Nat :=
  ((xs.zip ys).zipIdx.filter fun p => p.1.1 ≠ p.1.2).map Prod.snd

/-- The places are two neighbours, and the lists hold there the same characters crosswise. -/
def crossedAt (xs ys : List Char) : List Nat → Bool
  | [i, j] => j = i + 1 && xs[i]? = ys[j]? && xs[j]? = ys[i]?
  | _ => false

/-- Two lists of one length that differ by one swap of two different neighbours. -/
def charsSwapped (xs ys : List Char) : Bool :=
  xs.length = ys.length && xs ≠ ys && crossedAt xs ys (differences xs ys)

/-- One swap of two different neighbouring characters turns `a` into `b`. -/
def isSwap (a b : String) : Bool :=
  charsSwapped a.toList b.toList

/-- At most one edit away, a swap of neighbours counting as one. -/
def isNear (a b : String) : Bool :=
  editDistance a b ≤ 1 || isSwap a b

example : editDistance "kitten" "sitting" = 3 := by decide
example : isSwap "FORM" "FROM" = true := by decide
example : isNear "FROM" "ROM" = true := by decide

end Remittance.Text
