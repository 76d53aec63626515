import Mathlib
import Remittance.Text.Uppercase

/-!
# Capitals of single characters

The capital form of a character beyond ASCII comes from a row of the table, or the character
is its own capital (`FromTable`). A fact about capitals is therefore checked row by row. Here:
what has a given ASCII letter as its capital (`capitals_eq_singleton_iff`), and which ASCII
letters one character can stand for together (`ligature_of_capitals`).
-/

namespace Remittance.Text

namespace Uppercase

/-! ## Rows of the table -/

/-- What the capital form of a code point beyond ASCII can be. -/
inductive FromTable (n : Nat) : List Nat → Prop
  | run {r : Run} (hr : r ∈ runs) (hlast : n ≤ r.last) :
      FromTable n [r.target + (n - r.first)]
  | single {m : Nat} (h : (n, m) ∈ singles) : FromTable n [m]
  | expansion {ms : List Nat} (h : (n, ms) ∈ expansions) : FromTable n ms
  | itself : FromTable n [n]

theorem mem_of_lookup {α : Type} {rows : List (Nat × α)} {n : Nat} {a : α}
    (h : rows.lookup n = some a) : (n, a) ∈ rows := by
  obtain ⟨before, after, rfl, _⟩ := List.lookup_eq_some_iff.mp h
  exact List.mem_append_right _ List.mem_cons_self

/-- Where the capital form of a code point beyond ASCII is found. -/
theorem wideCapitals_cases (n : Nat) :
    (∃ r ∈ runs, r.covers n = true ∧ wideCapitals n = [r.target + (n - r.first)]) ∨
      (∃ m, (n, m) ∈ singles ∧ wideCapitals n = [m]) ∨
      (∃ ms, (n, ms) ∈ expansions ∧ wideCapitals n = ms) ∨ wideCapitals n = [n] := by
  unfold wideCapitals
  split
  · rename_i r hr
    have hcovers := List.find?_some hr
    exact Or.inl ⟨r, List.mem_of_find?_eq_some hr, hcovers, rfl⟩
  · right
    split
    · rename_i m hm
      exact Or.inl ⟨m, mem_of_lookup hm, rfl⟩
    · right
      cases h : expansions.lookup n with
      | some ms => exact Or.inl ⟨ms, mem_of_lookup h, rfl⟩
      | none => exact Or.inr rfl

theorem fromTable_wideCapitals (n : Nat) : FromTable n (wideCapitals n) := by
  rcases wideCapitals_cases n with
    ⟨r, hr, hcovers, h⟩ | ⟨m, hm, h⟩ | ⟨ms, hms, rfl⟩ | h
  · rw [h]
    simp only [Run.covers, Bool.and_eq_true, decide_eq_true_eq] at hcovers
    exact .run hr hcovers.1.2
  · rw [h]
    exact .single hm
  · exact .expansion hms
  · rw [h]
    exact .itself

theorem valid_of_mem_runs : ∀ r ∈ runs,
    r.target + (r.last - r.first) < 0xD800 ∨
      0xDFFF < r.target ∧ r.target + (r.last - r.first) < 0x110000 := by
  decide

theorem valid_of_mem_singles : ∀ row ∈ singles, row.2.isValidChar := by
  decide

theorem valid_of_mem_expansions : ∀ row ∈ expansions, ∀ m ∈ row.2, m.isValidChar := by
  decide

/-- No run of letters has its capitals in ASCII. -/
theorem target_of_mem_runs : ∀ r ∈ runs, 0x80 ≤ r.target := by
  decide

/-- Two letters have an ASCII capital: the dotless `i` and the long `s`. -/
theorem ascii_of_mem_singles : ∀ row ∈ singles, row.2 < 0x80 →
    row = (0x131, 0x49) ∨ row = (0x17F, 0x53) := by
  decide

theorem length_of_mem_expansions : ∀ row ∈ expansions, 2 ≤ row.2.length := by
  decide

/-- The pairs of ASCII letters with which the capital form of one character can begin. -/
def ligatures : List (List Nat) :=
  [[0x46, 0x46], [0x46, 0x49], [0x46, 0x4C], [0x53, 0x53], [0x53, 0x54]]

theorem ascii_of_mem_expansions : ∀ row ∈ expansions, (∀ m ∈ row.2, m < 0x80) →
    row.2.take 2 ∈ ligatures := by
  decide

/-! ## Any code point -/

theorem capitals_of_ascii {n : Nat} (h : n < 0x80) :
    capitals n = [if 0x61 ≤ n ∧ n ≤ 0x7A then n - 0x20 else n] := by
  simp only [capitals, if_pos h, Bool.and_eq_true, decide_eq_true_eq]

theorem fromTable_capitals {n : Nat} (h : 0x80 ≤ n) : FromTable n (capitals n) := by
  rw [capitals, if_neg (by omega)]
  exact fromTable_wideCapitals n

/-- The capital form of a character is made of characters. -/
theorem valid_of_mem_capitals {n m : Nat} (hn : n.isValidChar) (hm : m ∈ capitals n) :
    m.isValidChar := by
  rcases Nat.lt_or_ge n 0x80 with hascii | hwide
  · rw [capitals_of_ascii hascii, List.mem_singleton] at hm
    left
    split at hm <;> omega
  · have htable := fromTable_capitals hwide
    generalize capitals n = ms at hm htable
    cases htable with
    | run hr hlast =>
        rw [List.mem_singleton] at hm
        have hrow := valid_of_mem_runs _ hr
        rcases hrow with hlow | hhigh
        · left
          omega
        · right
          omega
    | single h =>
        rw [List.mem_singleton] at hm
        exact hm ▸ valid_of_mem_singles _ h
    | expansion h => exact valid_of_mem_expansions _ h m hm
    | itself =>
        rw [List.mem_singleton] at hm
        exact hm ▸ hn

theorem capitals_ne_nil (n : Nat) : capitals n ≠ [] := by
  rcases Nat.lt_or_ge n 0x80 with hascii | hwide
  · rw [capitals_of_ascii hascii]
    exact List.cons_ne_nil _ _
  · have htable := fromTable_capitals hwide
    generalize capitals n = ms at htable
    cases htable with
    | run _ _ => exact List.cons_ne_nil _ _
    | single _ => exact List.cons_ne_nil _ _
    | expansion h =>
        have hlength := length_of_mem_expansions _ h
        rintro rfl
        cases hlength
    | itself => exact List.cons_ne_nil _ _

/-- An ASCII capital is the capital form of itself and of its small letter, and `I` and `S`
of one more character each. -/
theorem capitals_eq_singleton_iff {n m : Nat} (hlow : 0x41 ≤ m) (hhigh : m ≤ 0x5A) :
    capitals n = [m] ↔
      n = m ∨ n = m + 0x20 ∨ (m = 0x49 ∧ n = 0x131) ∨ (m = 0x53 ∧ n = 0x17F) := by
  rcases Nat.lt_or_ge n 0x80 with hascii | hwide
  · rw [capitals_of_ascii hascii, List.singleton_inj]
    split <;> omega
  constructor
  · intro h
    have htable := fromTable_capitals hwide
    generalize capitals n = ms at h htable
    cases htable with
    | run hr _ =>
        have htarget := target_of_mem_runs _ hr
        rw [List.singleton_inj] at h
        omega
    | single hrow =>
        rw [List.singleton_inj] at h
        subst h
        rcases ascii_of_mem_singles _ hrow (by dsimp only; omega) with hrow | hrow
        · cases hrow
          exact Or.inr (Or.inr (Or.inl ⟨rfl, rfl⟩))
        · cases hrow
          exact Or.inr (Or.inr (Or.inr ⟨rfl, rfl⟩))
    | expansion hrow =>
        have hlength := length_of_mem_expansions _ hrow
        rw [h] at hlength
        exact absurd hlength (Nat.not_succ_le_self 1)
    | itself => exact Or.inl (List.singleton_inj.mp h)
  · rintro (rfl | rfl | ⟨rfl, rfl⟩ | ⟨rfl, rfl⟩)
    · omega
    · omega
    · decide
    · decide

/-- A capital form of several ASCII characters begins with a ligature. -/
theorem ligature_of_capitals {n a b : Nat} {rest : List Nat} (h : capitals n = a :: b :: rest)
    (hascii : ∀ m ∈ a :: b :: rest, m < 0x80) : [a, b] ∈ ligatures := by
  have hwide : 0x80 ≤ n := by
    by_contra hlt
    rw [capitals_of_ascii (by omega)] at h
    cases h
  have htable := fromTable_capitals hwide
  rw [h] at htable
  cases htable with
  | expansion hrow => exact ascii_of_mem_expansions _ hrow hascii

end Uppercase

/-! ## Characters -/

/-- The code points of a capital form are those that the table gives. -/
theorem map_toNat_upperChar (c : Char) :
    (upperChar c).map Char.toNat = Uppercase.capitals c.toNat := by
  have hvalid : ∀ m ∈ Uppercase.capitals c.toNat, (Char.ofNat m).toNat = m := by
    intro m hm
    rw [Char.toNat_ofNat, if_pos (Uppercase.valid_of_mem_capitals c.valid hm)]
  rw [upperChar, List.map_map]
  exact (List.map_congr_left hvalid).trans (List.map_id _)

theorem upperChar_ne_nil (c : Char) : upperChar c ≠ [] := by
  rw [upperChar, ne_eq, List.map_eq_nil_iff]
  exact Uppercase.capitals_ne_nil _

theorem isUpper_iff_toNat {c : Char} : c.isUpper = true ↔ 0x41 ≤ c.toNat ∧ c.toNat ≤ 0x5A := by
  simp only [Char.isUpper, decide_eq_true_eq, UInt32.le_iff_toNat_le]
  rfl

theorem toNat_toLower {c : Char} (h : c.isUpper = true) : c.toLower.toNat = c.toNat + 0x20 := by
  have hrange := isUpper_iff_toNat.mp h
  rw [Char.toLower_eq_of_isUpper h, Char.toNat_ofNat, if_pos (Or.inl (by omega))]

/-- A letter and its small letter have one capital form. -/
theorem upperChar_toLower (c : Char) : upperChar c.toLower = upperChar c := by
  by_cases h : c.isUpper = true
  · have hrange := isUpper_iff_toNat.mp h
    have hself : Uppercase.capitals c.toNat = [c.toNat] :=
      (Uppercase.capitals_eq_singleton_iff hrange.1 hrange.2).mpr (Or.inl rfl)
    have hsmall : Uppercase.capitals c.toLower.toNat = [c.toNat] :=
      (Uppercase.capitals_eq_singleton_iff hrange.1 hrange.2).mpr (Or.inr (Or.inl (toNat_toLower h)))
    rw [upperChar, upperChar, hself, hsmall]
  · rw [Char.toLower_eq_of_not_isUpper h]

end Remittance.Text
