import Remittance.Text.Blank
import Remittance.Text.Uppercase

/-!
# Tokens of an instruction

An instruction is cut at every plain space; each piece loses the blanks at its
ends, and pieces with nothing left are dropped. Other blanks inside a piece stay.
-/

namespace Remittance.Instruction

open Text

/-- The pieces between plain spaces, empty ones included. -/
def pieces : List Char → List (List Char)
  | [] => [[]]
  | c :: cs =>
    if c = ' ' then [] :: pieces cs
    else match pieces cs with
      | [] => [[c]]
      | p :: ps => (c :: p) :: ps

def tokenChars (cs : List Char) : List (List Char) :=
  ((pieces cs).map trimChars).filter (!·.isEmpty)

def tokens (text : String) : List String :=
  (tokenChars text.toList).map String.ofList

theorem pieces_ne_nil (cs : List Char) : pieces cs ≠ [] := by
  cases cs with
  | nil => simp [pieces]
  | cons c cs =>
    rw [pieces]
    split
    · simp
    · split <;> simp

/-- No piece holds a plain space. -/
theorem not_mem_pieces {cs p : List Char} (h : p ∈ pieces cs) : ' ' ∉ p := by
  induction cs generalizing p with
  | nil =>
    rw [pieces, List.mem_singleton] at h
    simp [h]
  | cons c cs ih =>
    rw [pieces] at h
    split at h
    · rcases List.mem_cons.1 h with rfl | h
      · simp
      · exact ih h
    · rename_i hc
      split at h
      · rw [List.mem_singleton] at h
        simp [h, Ne.symm hc]
      · rename_i q qs hq
        rcases List.mem_cons.1 h with rfl | h
        · have hq' : ' ' ∉ q := ih (by simp [hq])
          simp [Ne.symm hc, hq']
        · exact ih (by simp [hq, h])

end Remittance.Instruction
