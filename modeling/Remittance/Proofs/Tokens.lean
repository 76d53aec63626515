import Mathlib.Data.List.DropRight
import Remittance.Process

/-!
# Tokens of a trimmed text

Blanks around a text make no token, so a sentence has the same tokens whether or
not they are taken off first (`sentenceTokens_eq_tokens`).
-/

namespace Remittance

namespace Text

theorem trimChars_cons_blank {c : Char} (hc : isBlank c = true) (cs : List Char) :
    trimChars (c :: cs) = trimChars cs := by
  rw [trimChars, trimChars, List.dropWhile_cons_of_pos hc]

theorem dropTrailing_eq_rdropWhile (cs : List Char) : dropTrailing cs = cs.rdropWhile isBlank :=
  rfl

theorem dropTrailing_concat_blank {c : Char} (hc : isBlank c = true) (cs : List Char) :
    dropTrailing (cs ++ [c]) = dropTrailing cs :=
  List.rdropWhile_concat_pos isBlank cs c hc

theorem trimChars_concat_blank {c : Char} (hc : isBlank c = true) (cs : List Char) :
    trimChars (cs ++ [c]) = trimChars cs := by
  rw [trimChars, trimChars, List.dropWhile_append]
  split
  · rename_i hempty
    rw [List.isEmpty_iff.mp hempty, List.dropWhile_cons_of_pos hc]
    rfl
  · exact dropTrailing_concat_blank hc _

end Text

namespace Instruction

open Text

/-- A character at the end of a text either opens a new piece or joins the last
one. -/
theorem pieces_concat (cs : List Char) (c : Char) :
    ∃ init last, pieces cs = init ++ [last] ∧
      pieces (cs ++ [c]) =
        if c = ' ' then init ++ [last, []] else init ++ [last ++ [c]] := by
  induction cs with
  | nil =>
      refine ⟨[], [], rfl, ?_⟩
      by_cases hc : c = ' ' <;> simp [pieces, hc]
  | cons d cs ih =>
      obtain ⟨init, last, hpieces, hconcat⟩ := ih
      by_cases hd : d = ' '
      · refine ⟨[] :: init, last, by simp [pieces, hd, hpieces], ?_⟩
        rw [List.cons_append, pieces, if_pos hd, hconcat]
        split <;> rfl
      · cases init with
        | nil =>
            -- a single piece is both the first, which `d` joins, and the last
            refine ⟨[], d :: last, by simp [pieces, hd, hpieces], ?_⟩
            rw [List.cons_append, pieces, if_neg hd, hconcat]
            by_cases hc : c = ' ' <;> simp [hc]
        | cons p init =>
            refine ⟨(d :: p) :: init, last, by simp [pieces, hd, hpieces], ?_⟩
            rw [List.cons_append, pieces, if_neg hd, hconcat]
            by_cases hc : c = ' ' <;> simp [hc]

theorem tokenChars_cons_blank {c : Char} (hc : isBlank c = true) (cs : List Char) :
    tokenChars (c :: cs) = tokenChars cs := by
  rw [tokenChars, tokenChars, pieces]
  split
  · rfl
  · split
    · rename_i hnil
      exact absurd hnil (pieces_ne_nil cs)
    · rename_i p ps hpieces
      rw [hpieces, List.map_cons, List.map_cons, trimChars_cons_blank hc]

theorem tokenChars_concat_blank {c : Char} (hc : isBlank c = true) (cs : List Char) :
    tokenChars (cs ++ [c]) = tokenChars cs := by
  obtain ⟨init, last, hpieces, hconcat⟩ := pieces_concat cs c
  rw [tokenChars, tokenChars, hpieces, hconcat]
  split
  · -- a plain space leaves an empty piece behind, and that is dropped
    have hnil : trimChars [] = [] := rfl
    rw [List.append_cons, List.map_append, List.map_singleton, hnil, List.filter_append]
    exact List.append_nil _
  · rw [List.map_append, List.map_append, List.map_singleton, List.map_singleton,
      trimChars_concat_blank hc]

section

variable {blanks : List Char}

theorem tokenChars_blanks_append (h : ∀ c ∈ blanks, isBlank c = true) (cs : List Char) :
    tokenChars (blanks ++ cs) = tokenChars cs := by
  induction blanks with
  | nil => rfl
  | cons b blanks ih =>
      obtain ⟨hb, hblanks⟩ := List.forall_mem_cons.mp h
      rw [List.cons_append, tokenChars_cons_blank hb, ih hblanks]

theorem tokenChars_append_blanks (h : ∀ c ∈ blanks, isBlank c = true) (cs : List Char) :
    tokenChars (cs ++ blanks) = tokenChars cs := by
  induction blanks generalizing cs with
  | nil => rw [List.append_nil]
  | cons b blanks ih =>
      obtain ⟨hb, hblanks⟩ := List.forall_mem_cons.mp h
      rw [List.append_cons, ih hblanks, tokenChars_concat_blank hb]

end

theorem tokenChars_dropWhile (cs : List Char) :
    tokenChars (cs.dropWhile isBlank) = tokenChars cs := by
  have hblanks : ∀ c ∈ cs.takeWhile isBlank, isBlank c = true := fun _ => List.mem_takeWhile_imp
  rw [← tokenChars_blanks_append hblanks, List.takeWhile_append_dropWhile]

theorem tokenChars_dropTrailing (cs : List Char) :
    tokenChars (dropTrailing cs) = tokenChars cs := by
  have hblanks : ∀ c ∈ cs.rtakeWhile isBlank, isBlank c = true := fun _ => List.mem_rtakeWhile_imp
  rw [dropTrailing_eq_rdropWhile, ← tokenChars_append_blanks hblanks,
    List.rdropWhile_append_rtakeWhile]

theorem tokens_trim (text : String) : tokens (trim text) = tokens text := by
  rw [tokens, tokens, trim, String.toList_ofList, trimChars, tokenChars_dropTrailing,
    tokenChars_dropWhile]

end Instruction

/-- The tokens of a sentence are those of its text, blanks around it or not. -/
theorem sentenceTokens_eq_tokens (text : String) :
    sentenceTokens text = Instruction.tokens text :=
  Instruction.tokens_trim text

end Remittance
