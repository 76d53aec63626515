import Remittance.Number.Numeral

/-!
# Shortest decimals

The decimal with the fewest digits that reads back as a given magnitude. The
decimal grids are tried from the coarsest to the finest; on each only the two
points around the magnitude can read back as it. Of two that do the nearer is
taken, of two equally near the even one. The finest grid holds every magnitude
itself.
-/

namespace Remittance.Magnitude

/-- The decimal `digits · 10 ^ exponent` reads back as the magnitude. -/
def readsAs (m : Magnitude) (digits : Nat) (exponent : Int) : Bool :=
  Binary64.ofDecimal false digits exponent == .finite false m

/-- The point of the grid with steps of `10 ^ exponent` that stands for the
magnitude, if one of the two around it reads back. -/
def gridPoint? (m : Magnitude) (exponent : Int) : Option Nat :=
  let num := m.units * Nat.pow 10 (-exponent).toNat
  let den := Binary64.unitsPerOne * Nat.pow 10 exponent.toNat
  let below := num / den
  let above := below + 1
  if m.readsAs below exponent then
    if m.readsAs above exponent then some (Binary64.roundDiv num den) else some below
  else if m.readsAs above exponent then some above
  else none

/-- The first grid with a point that reads back, among those with steps from
`10 ^ (start - 1074)` down, and that point. -/
def shortestFrom (m : Magnitude) : (start : Nat) → Nat × Int
  | 0 => (m.units * Nat.pow 5 1074, -1074)
  | start + 1 =>
    let exponent : Int := (start + 1 : Nat) - 1074
    match m.gridPoint? exponent with
    | some digits => (digits, exponent)
    | none => m.shortestFrom start

/-- The shortest decimal of a magnitude, as a whole number and a power of ten.
The first grid tried is coarser than the magnitude, since 0.30103 exceeds the
logarithm of two. -/
def shortest (m : Magnitude) : Nat × Int :=
  let exponent := ((m.units.log2 : Int) - 1073) * 30103 / 100000 + 2
  m.shortestFrom (exponent + 1074).toNat

end Remittance.Magnitude
