import Remittance.Proofs.Tokens

/-!
# Texts made of tokens

Cutting a text at its plain spaces undoes joining pieces with them. So words that no cut
and no trim changes are the tokens of the text that they make with one space between any
two (`tokens_intercalate`), whatever other blanks there are inside them. The tokens of any
text are such words (`isToken_of_mem_tokens`), and together they hold all of its ink
(`ink_join_tokens`).
-/

namespace Remittance.Instruction

open Text

/-- A text with at least one character, without plain spaces and without a blank at
either end. -/
def IsToken (w : String) : Prop :=
  w ≠ "" ∧ ' ' ∉ w.toList ∧ (∀ c ∈ w.toList.head?, isBlank c = false) ∧
    ∀ c ∈ w.toList.getLast?, isBlank c = false

instance (w : String) : Decidable (IsToken w) :=
  @instDecidableAnd _ _ _ <| @instDecidableAnd _ _ _ <| @instDecidableAnd _ _
    (Option.decidableForallMem w.toList.head?) (Option.decidableForallMem w.toList.getLast?)

theorem pieces_eq_splitOn (cs : List Char) : pieces cs = cs.splitOn ' ' := by
  induction cs with
  | nil => rfl
  | cons c cs ih =>
      rw [pieces, List.splitOn_cons_eq_if_modifyHead, ← ih]
      by_cases hc : c = ' '
      · rw [if_pos hc, if_pos (beq_iff_eq.mpr hc)]
      · rw [if_neg hc, if_neg (by simpa using hc)]
        cases hpieces : pieces cs with
        | nil => exact absurd hpieces (pieces_ne_nil cs)
        | cons p ps => rfl

section

variable {cs : List Char}

theorem dropWhile_of_head (h : ∀ c ∈ cs.head?, isBlank c = false) :
    cs.dropWhile isBlank = cs := by
  cases cs with
  | nil => rfl
  | cons c cs =>
      have hc : isBlank c = false := h c rfl
      rw [List.dropWhile_cons_of_neg (by rw [hc]; decide)]

theorem trimChars_of_ends (hhead : ∀ c ∈ cs.head?, isBlank c = false)
    (hlast : ∀ c ∈ cs.getLast?, isBlank c = false) : trimChars cs = cs := by
  have hreverse : ∀ c ∈ cs.reverse.head?, isBlank c = false := by
    rwa [List.head?_reverse]
  rw [trimChars, dropWhile_of_head hhead, dropTrailing, dropWhile_of_head hreverse,
    List.reverse_reverse]

end

theorem IsToken.trimChars {w : String} (h : IsToken w) : Text.trimChars w.toList = w.toList :=
  trimChars_of_ends h.2.2.1 h.2.2.2

/-- The tokens of words with spaces between them are the words. -/
theorem tokens_intercalate {words : List String} (h : ∀ w ∈ words, IsToken w) :
    tokens (" ".intercalate words) = words := by
  cases words with
  | nil => rfl
  | cons w rest =>
      have hpieces : pieces (" ".intercalate (w :: rest)).toList =
          (w :: rest).map String.toList := by
        rw [String.toList_intercalate, pieces_eq_splitOn]
        refine List.splitOn_intercalate ' ' ?_ (List.cons_ne_nil _ _)
        exact List.forall_mem_map.mpr fun v hv => (h v hv).2.1
      have htrim : ∀ cs ∈ (w :: rest).map String.toList, Text.trimChars cs = cs :=
        List.forall_mem_map.mpr fun v hv => (h v hv).trimChars
      have hfull : ∀ cs ∈ (w :: rest).map String.toList, (!cs.isEmpty) = true := by
        refine List.forall_mem_map.mpr fun v hv => ?_
        simpa using (h v hv).1
      rw [tokens, tokenChars, hpieces, List.map_congr_left htrim, List.map_id',
        List.filter_eq_self.mpr hfull, List.map_map]
      refine (List.map_congr_left fun v _ => ?_).trans (List.map_id _)
      exact String.ofList_toList

/-! ## Spaces and blanks -/

theorem tokenChars_append_space (cs ds : List Char) :
    tokenChars (cs ++ ' ' :: ds) = tokenChars cs ++ tokenChars ds := by
  simp only [tokenChars, pieces_eq_splitOn, List.splitOn_append_cons_self, List.map_append,
    List.filter_append]

/-- A space keeps the tokens before it apart from those behind it. -/
theorem tokens_append_space (s t : String) : tokens (s ++ " " ++ t) = tokens s ++ tokens t := by
  have hchars : (s ++ " " ++ t).toList = s.toList ++ ' ' :: t.toList := by
    rw [String.append_assoc, String.toList_append, String.toList_append]
    rfl
  rw [tokens, hchars, tokenChars_append_space, List.map_append, tokens, tokens]

/-- A text of nothing but blanks. -/
def IsBlankText (s : String) : Prop :=
  ∀ c ∈ s.toList, isBlank c = true

instance (s : String) : Decidable (IsBlankText s) :=
  List.decidableBAll (fun c => isBlank c = true) s.toList

theorem tokens_blanks_append {blanks : String} (h : IsBlankText blanks) (s : String) :
    tokens (blanks ++ s) = tokens s := by
  rw [tokens, String.toList_append, tokenChars_blanks_append h, tokens]

theorem tokens_append_blanks {blanks : String} (h : IsBlankText blanks) (s : String) :
    tokens (s ++ blanks) = tokens s := by
  rw [tokens, String.toList_append, tokenChars_append_blanks h, tokens]

/-! ## The tokens of any text -/

theorem trimChars_sublist (cs : List Char) : (Text.trimChars cs).Sublist cs :=
  (List.rdropWhile_prefix isBlank _).sublist.trans (List.dropWhile_sublist isBlank)

theorem isBlank_head_trimChars {cs : List Char} :
    ∀ c ∈ (Text.trimChars cs).head?, isBlank c = false := by
  intro c hc
  -- what is left after the end is trimmed begins as what was there before
  obtain ⟨tail, htail⟩ := List.rdropWhile_prefix isBlank (cs.dropWhile isBlank)
  change Text.trimChars cs ++ tail = cs.dropWhile isBlank at htail
  have hstop := List.head?_dropWhile_not isBlank cs
  rw [← htail, List.head?_append, Option.mem_def.mp hc] at hstop
  exact hstop

theorem isBlank_getLast_trimChars {cs : List Char} :
    ∀ c ∈ (Text.trimChars cs).getLast?, isBlank c = false := by
  intro c hc
  have hstop := List.head?_dropWhile_not isBlank (cs.dropWhile isBlank).reverse
  rw [Text.trimChars, dropTrailing, List.getLast?_reverse, Option.mem_def] at hc
  rw [hc] at hstop
  exact hstop

theorem isToken_of_mem_tokens {text w : String} (h : w ∈ tokens text) : IsToken w := by
  obtain ⟨cs, hcs, rfl⟩ := List.mem_map.mp h
  obtain ⟨hpiece, hfull⟩ := List.mem_filter.mp hcs
  obtain ⟨p, hp, rfl⟩ := List.mem_map.mp hpiece
  rw [IsToken, String.toList_ofList]
  refine ⟨?_, ?_, isBlank_head_trimChars, isBlank_getLast_trimChars⟩
  · intro hempty
    have hnil := congrArg String.toList hempty
    rw [String.toList_ofList] at hnil
    rw [hnil] at hfull
    cases hfull
  · exact fun hspace => not_mem_pieces hp ((trimChars_sublist p).mem hspace)

/-! ## Ink -/

/-- The characters that are not blank, in their order. -/
def ink (cs : List Char) : List Char :=
  cs.filter fun c => !isBlank c

theorem ink_cons (c : Char) (cs : List Char) : ink (c :: cs) = ink [c] ++ ink cs :=
  List.filter_append [c] cs

theorem ink_flatten (pieces : List (List Char)) : ink pieces.flatten = (pieces.map ink).flatten :=
  List.filter_flatten

theorem ink_dropWhile (cs : List Char) : ink (cs.dropWhile isBlank) = ink cs := by
  induction cs with
  | nil => rfl
  | cons c cs ih =>
      by_cases hc : isBlank c = true
      · have hnone : ink [c] = [] := List.filter_cons_of_neg (by simp [hc])
        rw [List.dropWhile_cons_of_pos hc, ih, ink_cons c, hnone, List.nil_append]
      · rw [List.dropWhile_cons_of_neg hc]

theorem ink_trimChars (cs : List Char) : ink (Text.trimChars cs) = ink cs := by
  rw [Text.trimChars, dropTrailing, ink, List.filter_reverse, ← ink, ink_dropWhile, ink,
    List.filter_reverse, List.reverse_reverse, ← ink, ink_dropWhile]

theorem ink_flatten_pieces (cs : List Char) : ink (pieces cs).flatten = ink cs := by
  induction cs with
  | nil => rfl
  | cons c cs ih =>
      rw [pieces]
      split
      · rename_i hc
        subst hc
        exact ih
      · split
        · rename_i hnil
          exact absurd hnil (pieces_ne_nil cs)
        · rename_i p ps hpieces
          rw [hpieces] at ih
          change ink (c :: (p :: ps).flatten) = ink (c :: cs)
          rw [ink_cons, ih, ← ink_cons]

theorem toList_join_tokens (text : String) :
    (String.join (tokens text)).toList = (tokenChars text.toList).flatten := by
  rw [String.toList_join, tokens, List.flatMap_map]
  simp only [String.toList_ofList, List.flatMap_id']

/-- Only blanks are lost between the tokens and at their ends. -/
theorem ink_join_tokens (text : String) :
    ink (String.join (tokens text)).toList = ink text.toList := by
  have htrim : ∀ p ∈ pieces text.toList, (ink ∘ Text.trimChars) p = ink p :=
    fun p _ => ink_trimChars p
  rw [toList_join_tokens, tokenChars, List.flatten_filter_not_isEmpty, ink_flatten, List.map_map,
    List.map_congr_left htrim, ← ink_flatten, ink_flatten_pieces]

/-- Words that can be tokens are the tokens of the text that they make with spaces between
them. The tokens of a text are such words, so that a second cut finds them again, and they
have the ink of the text in its order. -/
theorem tokens_roundTrip :
    (∀ words : List String, (∀ w ∈ words, IsToken w) → tokens (" ".intercalate words) = words) ∧
    ∀ text : String, (∀ w ∈ tokens text, IsToken w) ∧
      tokens (" ".intercalate (tokens text)) = tokens text ∧
      ink (String.join (tokens text)).toList = ink text.toList := by
  refine ⟨fun words => tokens_intercalate, fun text => ?_⟩
  have htokens : ∀ w ∈ tokens text, IsToken w := fun w => isToken_of_mem_tokens
  exact ⟨htokens, tokens_intercalate htokens, ink_join_tokens text⟩

/-- Blanks other than the space stay inside a token. -/
theorem tokens_roundTrip_innerBlanks :
    (∀ w ∈ ["a\tb", "1\u2003\u20032"], IsToken w) ∧
      tokens (" ".intercalate ["a\tb", "1\u2003\u20032"]) = ["a\tb", "1\u2003\u20032"] := by
  have hwords : ∀ w ∈ ["a\tb", "1\u2003\u20032"], IsToken w := by decide +kernel
  exact ⟨hwords, tokens_roundTrip.1 _ hwords⟩

end Remittance.Instruction
