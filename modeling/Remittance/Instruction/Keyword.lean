import Remittance.Instruction.Fault
import Remittance.Instruction.Kind

/-!
# Keywords of a sentence

The fixed words are checked all at once. Places past the end of the sentence are
reported first, and only a sentence that reaches every place is told which of its
words are wrong.
-/

namespace Remittance.Instruction

/-- The keywords whose places lie past the end of the sentence. -/
def missingKeywords (slots : List Slot) (upperTokens : List String) : List String :=
  (slots.filter fun slot => upperTokens.length ≤ slot.index).map Slot.keyword

/-- The keywords whose places hold another word. -/
def mismatches (slots : List Slot) (upperTokens : List String) : List Mismatch :=
  slots.filterMap fun slot =>
    match upperTokens[slot.index]? with
    | some found => if found = slot.keyword then none else some ⟨slot.keyword, found⟩
    | none => none

/-- Passes a sentence, given in capitals, that has every keyword in its place. -/
def checkKeywords (slots : List Slot) (upperTokens : List String) : Except Fault Unit :=
  match missingKeywords slots upperTokens with
  | [] =>
    match mismatches slots upperTokens with
    | [] => .ok ()
    | wrong => .error (.wrongKeywords wrong)
  | missing => .error (.missingKeywords missing)

end Remittance.Instruction
