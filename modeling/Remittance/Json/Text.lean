import Remittance.Text.Hex
import Remittance.Text.Surrogate

/-!
# Texts in JSON

A text stands between double quotes. Writing escapes the double quote, the
backslash and the controls below the space, and nothing else; reading knows every
escape, and joins two escaped halves of a surrogate pair. The texts of the model have
no place for a half that stands alone.
-/

namespace Remittance.Json

open Text

/-! ## Writing -/

def escapeChar (c : Char) : List Char :=
  if c = '"' then ['\\', '"']
  else if c = '\\' then ['\\', '\\']
  else if c = '\n' then ['\\', 'n']
  else if c = '\r' then ['\\', 'r']
  else if c = '\t' then ['\\', 't']
  else if c = '\x08' then ['\\', 'b']
  else if c = '\x0c' then ['\\', 'f']
  else if c.toNat < 0x20 then '\\' :: 'u' :: hexDigits 4 c.toNat
  else [c]

def writeText (cs : List Char) : List Char :=
  '"' :: cs.flatMap escapeChar ++ ['"']

/-! ## Reading -/

/-- The character that a one-letter escape stands for. -/
def shortEscape? (c : Char) : Option Char :=
  if c = '"' ∨ c = '\\' ∨ c = '/' then some c
  else if c = 'n' then some '\n'
  else if c = 'r' then some '\r'
  else if c = 't' then some '\t'
  else if c = 'b' then some '\x08'
  else if c = 'f' then some '\x0c'
  else none

/-- The number written by four hexadecimal digits. -/
def hexQuad? (a b c d : Char) : Option Nat := do
  let a ← hexValue? a
  let b ← hexValue? b
  let c ← hexValue? c
  let d ← hexValue? d
  return ((a * 16 + b) * 16 + c) * 16 + d

/-- The code units up to the closing quote, and what follows it. -/
def readUnits? : List Char → Option (List Nat × List Char)
  | [] => none
  | '"' :: cs => some ([], cs)
  | '\\' :: 'u' :: a :: b :: c :: d :: cs => do
    let n ← hexQuad? a b c d
    let (ns, rest) ← readUnits? cs
    return (n :: ns, rest)
  | '\\' :: c :: cs => do
    let escaped ← shortEscape? c
    let (ns, rest) ← readUnits? cs
    return (escaped.toNat :: ns, rest)
  | c :: cs => do
    guard (c ≠ '\\' ∧ 0x20 ≤ c.toNat)
    let (ns, rest) ← readUnits? cs
    return (c.toNat :: ns, rest)

end Remittance.Json
