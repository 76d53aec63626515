import Remittance.Text.Uppercase.Table

/-!
# Uppercase

The full capital form of a text, independent of any language: one character may
become up to three (`ß` becomes `SS`), and two spellings that differ only in case
have the same capital form.
-/

namespace Remittance.Text

namespace Uppercase

/-- The run holds the code point. -/
def Run.covers (r : Run) (n : Nat) : Bool :=
  r.first ≤ n && n ≤ r.last && (n - r.first) % r.step == 0

/-- The capital form of a code point beyond ASCII. -/
def wideCapitals (n : Nat) : List Nat :=
  match runs.find? (·.covers n) with
  | some r => [r.target + (n - r.first)]
  | none =>
    match singles.lookup n with
    | some m => [m]
    | none => (expansions.lookup n).getD [n]

/-- The capital form of a code point, as code points. -/
def capitals (n : Nat) : List Nat :=
  if n < 0x80 then [if 0x61 ≤ n && n ≤ 0x7A then n - 0x20 else n] else wideCapitals n

end Uppercase

def upperChar (c : Char) : List Char :=
  (Uppercase.capitals c.toNat).map Char.ofNat

def upperChars (cs : List Char) : List Char :=
  cs.flatMap upperChar

def upper (s : String) : String :=
  String.ofList (upperChars s.toList)

@[simp] theorem upperChars_nil : upperChars [] = [] := rfl

@[simp] theorem upperChars_cons (c : Char) (cs : List Char) :
    upperChars (c :: cs) = upperChar c ++ upperChars cs := rfl

example : upperChars ['s', 't', 'r', 'a', 'ß', 'e'] = ['S', 'T', 'R', 'A', 'S', 'S', 'E'] := by
  decide

end Remittance.Text
