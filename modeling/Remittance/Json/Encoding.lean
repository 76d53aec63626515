import Remittance.Json.Reader

/-!
# Encodings of JSON

A JSON text travels as bytes, in units of one, two or four of them. A mark in front
tells how wide the units are and in which order their bytes stand. Without one the
zeros among the first four bytes tell it, for the text begins with a character that
takes one byte. Halves of surrogate pairs pass through every encoding.
-/

namespace Remittance.Json

open Text

/-! ## Units of one byte -/

/-- A code point of which the first bytes have been taken: how many are still to come,
the bits so far, and the least code point that is written this long. -/
structure Partial where
  more : Nat
  bits : Nat
  least : Nat

namespace Partial

def start? (byte : Nat) : Option Partial :=
  if byte < 0x80 then some ⟨0, byte, 0⟩
  else if byte < 0xC0 then none
  else if byte < 0xE0 then some ⟨1, byte - 0xC0, 0x80⟩
  else if byte < 0xF0 then some ⟨2, byte - 0xE0, 0x800⟩
  else if byte < 0xF8 then some ⟨3, byte - 0xF0, 0x10000⟩
  else none

def next? (p : Partial) (byte : Nat) : Option Partial :=
  if byte / 64 = 2 then some ⟨p.more - 1, p.bits * 64 + byte % 64, p.least⟩ else none

end Partial

/-- The code points of bytes, of which the first may belong to one that has begun. -/
def pointsFrom? : Option Partial → List UInt8 → Option (List Nat)
  | none, [] => some []
  | some _, [] => none
  | p?, byte :: bytes => do
    let p ← match p? with
      | none => Partial.start? byte.toNat
      | some p => p.next? byte.toNat
    if p.more ≠ 0 then pointsFrom? (some p) bytes
    else if p.least ≤ p.bits ∧ p.bits ≤ 0x10FFFF then
      (pointsFrom? none bytes).map (p.bits :: ·)
    else none

/-! ## Units of two and of four bytes -/

/-- The order of the bytes of a unit: the lowest first, or the highest first. -/
inductive ByteOrder where
  | little
  | big
  deriving DecidableEq

def ByteOrder.value : ByteOrder → List UInt8 → Nat
  | .little, bytes => bytes.foldr (fun byte n => byte.toNat + n * 256) 0
  | .big, bytes => bytes.foldl (fun n byte => n * 256 + byte.toNat) 0

/-- The units of two bytes, if no byte is left over. -/
def pairs? (order : ByteOrder) : List UInt8 → Option (List Nat)
  | [] => some []
  | a :: b :: rest => (pairs? order rest).map (order.value [a, b] :: ·)
  | [_] => none

/-- The units of four bytes, if no byte is left over. -/
def quads? (order : ByteOrder) : List UInt8 → Option (List Nat)
  | [] => some []
  | a :: b :: c :: d :: rest => (quads? order rest).map (order.value [a, b, c, d] :: ·)
  | _ => none

/-! ## Encodings -/

/-- How the characters of a text are written as bytes. -/
inductive Encoding where
  | utf8
  | utf16 (order : ByteOrder)
  | utf32 (order : ByteOrder)
  deriving DecidableEq

namespace Encoding

/-- The code points that bytes stand for. -/
def decode? : Encoding → List UInt8 → Option (List Nat)
  | .utf8, bytes => pointsFrom? none bytes
  | .utf16 order, bytes => (pairs? order bytes).map joinHalves
  | .utf32 order, bytes => (quads? order bytes).filter fun points => points.all (· ≤ 0x10FFFF)

/-- The marks that may stand in front, in the order in which they are looked for. -/
def marks : List (List UInt8 × Encoding) :=
  [([0x00, 0x00, 0xFE, 0xFF], .utf32 .big), ([0xFF, 0xFE, 0x00, 0x00], .utf32 .little),
    ([0xFE, 0xFF], .utf16 .big), ([0xFF, 0xFE], .utf16 .little), ([0xEF, 0xBB, 0xBF], .utf8)]

/-- The encoding of a text without a mark, from the zeros among its first bytes. -/
def ofZeros : List UInt8 → Encoding
  | [a, b] => if a = 0 then .utf16 .big else if b = 0 then .utf16 .little else .utf8
  | a :: b :: c :: d :: _ =>
    if a = 0 then (if b = 0 then .utf32 .big else .utf16 .big)
    else if b = 0 then (if c = 0 ∧ d = 0 then .utf32 .little else .utf16 .little)
    else .utf8
  | _ => .utf8

/-- The encoding of a text, and the text without its mark. -/
def detect (bytes : List UInt8) : Encoding × List UInt8 :=
  let marked := marks.findSome? fun (mark, encoding) =>
    (mark.isPrefixOf? bytes).map fun rest => (encoding, rest)
  marked.getD (ofZeros bytes, bytes)

end Encoding

/-! ## Reading bytes -/

/-- What bytes were read as. A half of a surrogate pair that stands alone is no character, so
a value is known by two likenesses, which have different characters in the place of every
half: a text that is the same in both holds none. -/
structure Reading where
  likeness : Value
  other : Value

/-- The reading of a value whose texts hold no halves. -/
def Reading.exact (v : Value) : Reading :=
  ⟨v, v⟩

/-- Reads code points that hold one value and nothing else, with a character in the place of
every half. -/
def readLike (lone : Char) (depth : Nat) (points : List Nat) : Except Fault Value :=
  readChars lone depth (points.map fun n => if isHalf n then lone else Char.ofNat n)

def readPoints (depth : Nat) (points : List Nat) : Except Fault Reading := do
  let likeness ← readLike '\uFFFD' depth points
  let other ← readLike '\uFFFE' depth points
  return ⟨likeness, other⟩

def readBytes (depth : Nat) (bytes : List UInt8) : Except Fault Reading :=
  let (encoding, bytes) := Encoding.detect bytes
  match encoding.decode? bytes with
  | some points => readPoints depth points
  | none => .error .undecodable

example : Encoding.detect [0x7B, 0, 0x7D, 0] = (.utf16 .little, [0x7B, 0, 0x7D, 0]) := by decide
example : Encoding.detect [0xEF, 0xBB, 0xBF, 0x35] = (.utf8, [0x35]) := by decide
example : Encoding.utf8.decode? [0x41, 0xED, 0xA0, 0x80] = some [0x41, 0xD800] := by decide
example : readPoints 0 [0x22, 0xD800, 0x22] = .ok ⟨.text "\uFFFD", .text "\uFFFE"⟩ := by rfl

end Remittance.Json
