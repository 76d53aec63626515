/-!
# Blank characters

The characters that carry no ink at the ends of a word: the tab and line
controls, the four information separators, the space, and the wide and narrow
spaces of typesetting. Trimming removes them at both ends of a text and keeps
those inside it.
-/

namespace Remittance.Text

/-- The twenty-nine blank characters. -/
def isBlank (c : Char) : Bool :=
  let n := c.toNat
  (0x09 ≤ n && n ≤ 0x0D) || (0x1C ≤ n && n ≤ 0x20) || n == 0x85 || n == 0xA0 ||
  n == 0x1680 || (0x2000 ≤ n && n ≤ 0x200A) || n == 0x2028 || n == 0x2029 ||
  n == 0x202F || n == 0x205F || n == 0x3000

/-- A list of characters without the blanks at its end. -/
def dropTrailing (cs : List Char) : List Char :=
  (cs.reverse.dropWhile isBlank).reverse

def trimChars (cs : List Char) : List Char :=
  dropTrailing (cs.dropWhile isBlank)

def trim (s : String) : String :=
  String.ofList (trimChars s.toList)

end Remittance.Text
