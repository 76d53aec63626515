/-!
# Kinds of instruction and their fixed words

An instruction opens with its kind. The kind settles which word stands at which
place of the sentence, and where the two account ids are.
-/

namespace Remittance.Instruction

/-- A debit names the account that pays first, a credit the one that is paid. -/
inductive Kind where
  | debit
  | credit
  deriving DecidableEq

/-- A word that the sentence must have at a given place, counted from zero. -/
structure Slot where
  index : Nat
  keyword : String
  deriving DecidableEq

namespace Kind

def word : Kind → String
  | .debit => "DEBIT"
  | .credit => "CREDIT"

/-- The kind that a word in capitals opens. -/
def ofWord? (s : String) : Option Kind :=
  [Kind.debit, .credit].find? (·.word == s)

/-- The kind of a sentence, from its tokens in capitals. -/
def detect? (upperTokens : List String) : Option Kind :=
  upperTokens.head?.bind ofWord?

/-- The words that must stand between the fields of a sentence. -/
def slots : Kind → List Slot
  | .debit =>
    [⟨3, "FROM"⟩, ⟨4, "ACCOUNT"⟩, ⟨6, "FOR"⟩, ⟨7, "CREDIT"⟩, ⟨8, "TO"⟩, ⟨9, "ACCOUNT"⟩]
  | .credit =>
    [⟨3, "TO"⟩, ⟨4, "ACCOUNT"⟩, ⟨6, "FOR"⟩, ⟨7, "DEBIT"⟩, ⟨8, "FROM"⟩, ⟨9, "ACCOUNT"⟩]

/-- The place of the account that pays. -/
def fromIndex : Kind → Nat
  | .debit => 5
  | .credit => 10

/-- The place of the account that is paid. -/
def toIndex : Kind → Nat
  | .debit => 10
  | .credit => 5

@[simp] theorem ofWord?_word (k : Kind) : ofWord? k.word = some k := by
  cases k <;> decide

theorem ofWord?_eq_some_iff {s : String} {k : Kind} : ofWord? s = some k ↔ s = k.word := by
  constructor
  · intro h
    have := List.find?_some h
    simp only [beq_iff_eq] at this
    exact this.symm
  · rintro rfl
    exact ofWord?_word k

end Kind

end Remittance.Instruction
