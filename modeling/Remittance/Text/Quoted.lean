import Remittance.Text.Hex
import Remittance.Text.Printable

/-!
# Quoted text

One line that shows a text exactly: quotes around it, and an escape for the
enclosing quote, the backslash and every character that would not show as itself.
-/

namespace Remittance.Text

/-- Apostrophes enclose a text, unless it holds one and no double quote. -/
def enclosingQuote (cs : List Char) : Char :=
  if cs.contains '\'' && !cs.contains '"' then '"' else '\''

/-- An escape by code point, in the shortest of the three widths that holds it. -/
def codeEscape (n : Nat) : List Char :=
  if n < 0x100 then '\\' :: 'x' :: hexDigits 2 n
  else if n < 0x10000 then '\\' :: 'u' :: hexDigits 4 n
  else '\\' :: 'U' :: hexDigits 8 n

def quotedChar (quote c : Char) : List Char :=
  if c == quote || c == '\\' then ['\\', c]
  else if c == '\n' then ['\\', 'n']
  else if c == '\r' then ['\\', 'r']
  else if c == '\t' then ['\\', 't']
  else if isPrintable c then [c]
  else codeEscape c.toNat

def quotedChars (cs : List Char) : List Char :=
  let quote := enclosingQuote cs
  quote :: cs.flatMap (quotedChar quote) ++ [quote]

def quoted (s : String) : String :=
  String.ofList (quotedChars s.toList)

end Remittance.Text
