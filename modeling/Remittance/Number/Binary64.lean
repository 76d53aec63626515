/-!
# Double-precision numbers

The numbers of the binary interchange format with sixty-four bits, each with one
representation: a sign with a magnitude counted in units of 2⁻¹⁰⁷⁴, an infinity,
or the value that is no number. Every result is the exact one rounded to the
nearest magnitude, and a tie goes to the even neighbour.
-/

namespace Remittance

namespace Binary64

/-- The number of units in one. -/
def unitsPerOne : Nat := Nat.pow 2 1074

/-- Every finite magnitude lies below this number of units. -/
def unitsLimit : Nat := Nat.pow 2 2098

theorem unitsLimit_pos : 0 < unitsLimit := by
  decide +kernel

/-- The counts that fifty-three bits hold lie below this one. -/
def significandLimit : Nat := Nat.pow 2 53

/-- Counts of units with at most fifty-three significant bits. -/
def IsSignificant (units : Nat) : Prop :=
  ∃ significand exponent, significand < significandLimit ∧
    units = significand * Nat.pow 2 exponent

end Binary64

/-- The absolute value of a finite number, in units of 2⁻¹⁰⁷⁴. -/
structure Magnitude where
  units : Nat
  significant : Binary64.IsSignificant units
  lt_limit : units < Binary64.unitsLimit

/-- Two magnitudes with the same count are the same. -/
theorem Magnitude.ext {a b : Magnitude} (h : a.units = b.units) : a = b := by
  cases a; cases b; simp_all

instance : DecidableEq Magnitude := fun a b =>
  if h : a.units = b.units then isTrue (Magnitude.ext h)
  else isFalse fun e => h (congrArg Magnitude.units e)

def Magnitude.zero : Magnitude where
  units := 0
  significant := ⟨0, 0, by decide, by decide⟩
  lt_limit := Binary64.unitsLimit_pos

/-- A double-precision number. Zero has two signs. -/
inductive Binary64 where
  | finite (negative : Bool) (magnitude : Magnitude)
  | infinite (negative : Bool)
  | nan
  deriving DecidableEq

namespace Binary64

/-! ## Rounding -/

/-- A quotient rounded to the nearest whole number, a tie to the even one. -/
def roundDiv (num den : Nat) : Nat :=
  let q := num / den
  let r := num % den
  if 2 * r < den then q
  else if den < 2 * r then q + 1
  else q + q % 2

/-- The distance between neighbouring magnitudes around a count of units: the
leading fifty-three bits count. -/
def spacing (units : Nat) : Nat :=
  Nat.pow 2 (units.log2 - 52)

/-- A quotient of units rounded to fifty-three significant bits. -/
def roundUnits (num den : Nat) : Nat :=
  let step := spacing (num / den)
  roundDiv num (den * step) * step

theorem spacing_pos (units : Nat) : 0 < spacing units :=
  Nat.two_pow_pos _

/-- A quotient fills at most fifty-three bits when counted in its own steps. -/
theorem div_mul_spacing_lt (num den : Nat) :
    num / (den * spacing (num / den)) < significandLimit := by
  rw [← Nat.div_div_eq_div_mul]
  refine (Nat.div_lt_iff_lt_mul (spacing_pos _)).2 ?_
  refine Nat.lt_of_lt_of_le Nat.lt_log2_self ?_
  show 2 ^ ((num / den).log2 + 1) ≤ 2 ^ 53 * 2 ^ ((num / den).log2 - 52)
  rw [← Nat.pow_add]
  exact Nat.pow_le_pow_right (by decide) (by omega)

theorem roundDiv_le (num den : Nat) : roundDiv num den ≤ num / den + 1 := by
  unfold roundDiv
  dsimp only
  split
  · omega
  · split <;> omega

/-- A rounded count has at most fifty-three significant bits: the one that fills
all of them and one more is a power of two. -/
theorem isSignificant_roundUnits (num den : Nat) : IsSignificant (roundUnits num den) := by
  unfold roundUnits
  dsimp only
  have hlt := div_mul_spacing_lt num den
  have hle := roundDiv_le num (den * spacing (num / den))
  rcases Nat.lt_or_ge (roundDiv num (den * spacing (num / den))) significandLimit with h | h
  · exact ⟨_, _, h, rfl⟩
  · have heq : roundDiv num (den * spacing (num / den)) = significandLimit := by omega
    refine ⟨1, 53 + ((num / den).log2 - 52), by decide, ?_⟩
    rw [heq, Nat.one_mul]
    exact (Nat.pow_add 2 53 _).symm

/-- The number nearest to `num / den` units with the given sign; an infinity when
that lies past the largest finite number. -/
def ofRatio (negative : Bool) (num den : Nat) : Binary64 :=
  if h : roundUnits num den < unitsLimit then
    .finite negative ⟨roundUnits num den, isSignificant_roundUnits num den, h⟩
  else .infinite negative

/-! ## Arithmetic and comparison -/

def zero : Binary64 := .finite false .zero

/-- The units of a finite number, with its sign. -/
def signedUnits (negative : Bool) (magnitude : Magnitude) : Int :=
  if negative then -(magnitude.units : Int) else magnitude.units

/-- The number, if it is neither an infinity nor the value that is no number. -/
def finite? : Binary64 → Option Binary64
  | .finite negative magnitude => some (.finite negative magnitude)
  | _ => none

/-- The number nearest to an integer, unless that lies past the largest finite
number. -/
def ofInt? (n : Int) : Option Binary64 :=
  (ofRatio (n < 0) (n.natAbs * unitsPerOne) 1).finite?

def neg : Binary64 → Binary64
  | .finite negative magnitude => .finite (!negative) magnitude
  | .infinite negative => .infinite (!negative)
  | .nan => .nan

/-- The rounded sum. Numbers that cancel give the positive zero, and only two
negative zeros give the negative one. -/
def add : Binary64 → Binary64 → Binary64
  | .finite s a, .finite t b =>
    let total := signedUnits s a + signedUnits t b
    if total = 0 then .finite (s && t) .zero else ofRatio (total < 0) total.natAbs 1
  | .finite _ _, .infinite t => .infinite t
  | .infinite s, .finite _ _ => .infinite s
  | .infinite s, .infinite t => if s = t then .infinite s else .nan
  | .nan, _ => .nan
  | _, .nan => .nan

def sub (x y : Binary64) : Binary64 :=
  add x (neg y)

def ltInt : Binary64 → Int → Bool
  | .finite negative magnitude, n => signedUnits negative magnitude < n * unitsPerOne
  | .infinite negative, _ => negative
  | .nan, _ => false

def isFinite : Binary64 → Bool
  | .finite _ _ => true
  | _ => false

/-- The whole number that a finite number is equal to, if there is one. -/
def toInt? : Binary64 → Option Int
  | .finite negative magnitude =>
    if magnitude.units % unitsPerOne = 0 then
      let n := magnitude.units / unitsPerOne
      some (if negative then -(n : Int) else n)
    else none
  | _ => none

/-- The largest finite number, as an integer. -/
def largest : Nat := (significandLimit - 1) * Nat.pow 2 971

end Binary64

end Remittance
