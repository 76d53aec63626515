import Remittance.Text.Uppercase

/-!
# Currencies

The four currencies of settlement. Their codes are recognised in any case, with
nothing before or after them.
-/

namespace Remittance

inductive Currency where
  | ngn
  | usd
  | gbp
  | ghs
  deriving DecidableEq

namespace Currency

def code : Currency → String
  | .ngn => "NGN"
  | .usd => "USD"
  | .gbp => "GBP"
  | .ghs => "GHS"

/-- The currencies in the order in which messages name them. -/
def all : List Currency := [.ngn, .usd, .gbp, .ghs]

def ofCode? (s : String) : Option Currency :=
  all.find? (·.code == s)

/-- A written currency in capitals; a missing one is the empty text. -/
def normalise (raw : Option String) : String :=
  Text.upper (raw.getD "")

/-- The currency that a text names in any case. -/
def read? (raw : Option String) : Option Currency :=
  ofCode? (normalise raw)

@[simp] theorem ofCode?_code (c : Currency) : ofCode? c.code = some c := by
  cases c <;> decide

theorem ofCode?_eq_some_iff {s : String} {c : Currency} : ofCode? s = some c ↔ s = c.code := by
  constructor
  · intro h
    have := List.find?_some h
    simp only [beq_iff_eq] at this
    exact this.symm
  · rintro rfl
    exact ofCode?_code c

end Currency

end Remittance
