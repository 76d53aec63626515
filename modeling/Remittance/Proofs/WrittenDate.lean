import Mathlib
import Remittance.Calendar

/-!
# Written dates

A text in the form of a date has three numbers (`HasParts`), and what reading makes of it
depends on these alone (`ofText_of_hasParts`). A date has one written form: reading accepts
exactly what writing produces (`ofText_eq_ok_iff`), and since every part is padded to a fixed
width, written dates compare as texts the way days follow each other (`text_lt_text_iff`).
-/

namespace Remittance.Date

/-! ## Padded digits -/

theorem toNat_bounds_of_isDigit {c : Char} (h : c.isDigit = true) :
    48 ≤ c.toNat ∧ c.toNat ≤ 57 := by
  simpa [Char.isDigit, UInt32.le_iff_toNat_le] using h

theorem isDigit_iff {c : Char} : c.isDigit = true ↔ '0' ≤ c ∧ c ≤ '9' := by
  simp only [Char.isDigit, Bool.and_eq_true, decide_eq_true_eq, Char.le_def, ge_iff_le]

theorem digitChar_toNat_sub {c : Char} (h : c.isDigit = true) :
    Nat.digitChar (c.toNat - 48) = c := by
  have hb := toNat_bounds_of_isDigit h
  apply Char.toNat_inj.mp
  rw [Nat.toNat_digitChar_of_lt_ten (by omega)]
  omega

theorem isDigit_of_mem_paddedDigits {width n : Nat} {c : Char}
    (h : c ∈ paddedDigits width n) : c.isDigit = true := by
  induction width generalizing n with
  | zero => simp [paddedDigits] at h
  | succ width ih =>
      rw [paddedDigits, List.mem_append, List.mem_singleton] at h
      rcases h with h | rfl
      · exact ih h
      · rw [Nat.isDigit_digitChar]
        exact decide_eq_true (Nat.mod_lt n (by decide))

/-- A number that fits the width is read back from its padded digits. -/
theorem ofDigitChars_paddedDigits {width n : Nat} (h : n < 10 ^ width) :
    Nat.ofDigitChars 10 (paddedDigits width n) 0 = n := by
  induction width generalizing n with
  | zero =>
      have hn : n = 0 := by simpa using h
      subst n
      rfl
  | succ width ih =>
      have hq : n / 10 < 10 ^ width := by
        rw [pow_succ] at h
        omega
      rw [paddedDigits, Nat.ofDigitChars_append, ih hq,
        Nat.ofDigitChars_cons_digitChar_of_lt_ten (Nat.mod_lt n (by decide)),
        Nat.ofDigitChars_nil]
      omega

/-- The last digit counts once, and all before it ten times. -/
theorem ofDigitChars_concat (cs : List Char) (c : Char) :
    Nat.ofDigitChars 10 (cs ++ [c]) 0 = 10 * Nat.ofDigitChars 10 cs 0 + (c.toNat - 48) := by
  rw [Nat.ofDigitChars_append, Nat.ofDigitChars_cons, Nat.ofDigitChars_nil]
  rfl

/-- Digits are the padded digits of the number that they denote. -/
theorem paddedDigits_ofDigitChars (cs : List Char) (h : ∀ c ∈ cs, c.isDigit = true) :
    paddedDigits cs.length (Nat.ofDigitChars 10 cs 0) = cs := by
  -- padding writes the last digit last, so the induction takes off the end
  induction cs using List.reverseRecOn with
  | nil => rfl
  | append_singleton cs c ih =>
      have hc : c.isDigit = true := h c (by simp)
      have hb := toNat_bounds_of_isDigit hc
      have hdiv : (10 * Nat.ofDigitChars 10 cs 0 + (c.toNat - 48)) / 10 =
          Nat.ofDigitChars 10 cs 0 := by omega
      have hmod : (10 * Nat.ofDigitChars 10 cs 0 + (c.toNat - 48)) % 10 =
          c.toNat - 48 := by omega
      rw [List.length_append, List.length_singleton, paddedDigits, ofDigitChars_concat, hdiv, hmod,
        ih (fun d hd => h d (List.mem_append_left _ hd)), digitChar_toNat_sub hc]

theorem ofDigitChars_lt (cs : List Char) (h : ∀ c ∈ cs, c.isDigit = true) :
    Nat.ofDigitChars 10 cs 0 < 10 ^ cs.length := by
  induction cs using List.reverseRecOn with
  | nil => exact Nat.one_pos
  | append_singleton cs c ih =>
      have hb := toNat_bounds_of_isDigit (h c (by simp))
      have hlt := ih fun d hd => h d (List.mem_append_left _ hd)
      rw [ofDigitChars_concat, List.length_append, List.length_singleton, pow_succ]
      omega

theorem digitChar_lt_digitChar_iff {a b : Nat} (ha : a < 10) (hb : b < 10) :
    Nat.digitChar a < Nat.digitChar b ↔ a < b := by
  rw [Char.lt_def, UInt32.lt_iff_toNat_lt]
  show (Nat.digitChar a).toNat < (Nat.digitChar b).toNat ↔ a < b
  rw [Nat.toNat_digitChar_of_lt_ten ha, Nat.toNat_digitChar_of_lt_ten hb]
  omega

theorem digitChar_eq_digitChar_iff {a b : Nat} (ha : a < 10) (hb : b < 10) :
    Nat.digitChar a = Nat.digitChar b ↔ a = b := by
  rw [← Char.toNat_inj, Nat.toNat_digitChar_of_lt_ten ha, Nat.toNat_digitChar_of_lt_ten hb]
  omega

/-- Digits of one width compare as the numbers, and where these are equal the
rest of the texts decides. -/
theorem paddedDigits_append_lt_iff {width n m : Nat} (hn : n < 10 ^ width)
    (hm : m < 10 ^ width) (xs ys : List Char) :
    paddedDigits width n ++ xs < paddedDigits width m ++ ys ↔ n < m ∨ n = m ∧ xs < ys := by
  induction width generalizing n m xs ys with
  | zero =>
      have hn0 : n = 0 := by simpa using hn
      have hm0 : m = 0 := by simpa using hm
      simp [paddedDigits, hn0, hm0]
  | succ width ih =>
      have hnq : n / 10 < 10 ^ width := by
        rw [pow_succ] at hn
        omega
      have hmq : m / 10 < 10 ^ width := by
        rw [pow_succ] at hm
        omega
      -- the last digit counts as the front of the rest, behind the quotients
      have hnr : n % 10 < 10 := Nat.mod_lt n (by decide)
      have hmr : m % 10 < 10 := Nat.mod_lt m (by decide)
      rw [paddedDigits, paddedDigits, List.append_assoc, List.append_assoc, ih hnq hmq,
        List.singleton_append, List.singleton_append, List.cons_lt_cons_iff,
        digitChar_lt_digitChar_iff hnr hmr, digitChar_eq_digitChar_iff hnr hmr]
      constructor
      · rintro (h | ⟨hq, h | ⟨hr, h⟩⟩)
        · exact Or.inl (by omega)
        · exact Or.inl (by omega)
        · exact Or.inr ⟨by omega, h⟩
      · rintro (h | ⟨rfl, h⟩)
        · by_cases hq : n / 10 < m / 10
          · exact Or.inl hq
          · exact Or.inr ⟨by omega, Or.inl (by omega)⟩
        · exact Or.inr ⟨rfl, Or.inr ⟨rfl, h⟩⟩

/-! ## The form of a date -/

/-- So many decimal digits, which denote the number. -/
structure Row (width : Nat) (cs : List Char) (n : Nat) : Prop where
  length : cs.length = width
  digits : ∀ c ∈ cs, '0' ≤ c ∧ c ≤ '9'
  value : Nat.ofDigitChars 10 cs 0 = n

/-- The text is four digits for a year, two for a month and two for a day, with hyphens
between them. -/
def HasParts (s : String) (year month day : Nat) : Prop :=
  ∃ y m d, s.toList = y ++ '-' :: m ++ '-' :: d ∧ Row 4 y year ∧ Row 2 m month ∧ Row 2 d day

theorem row_paddedDigits {width n : Nat} (h : n < 10 ^ width) :
    Row width (paddedDigits width n) n where
  length := length_paddedDigits width n
  digits _ hc := isDigit_iff.mp (isDigit_of_mem_paddedDigits hc)
  value := ofDigitChars_paddedDigits h

theorem Row.isDigit {width n : Nat} {cs : List Char} (h : Row width cs n) :
    ∀ c ∈ cs, c.isDigit = true :=
  fun c hc => isDigit_iff.mpr (h.digits c hc)

theorem Row.lt {width n : Nat} {cs : List Char} (h : Row width cs n) : n < 10 ^ width := by
  rw [← h.value, ← h.length]
  exact ofDigitChars_lt cs h.isDigit

theorem Row.eq_paddedDigits {width n : Nat} {cs : List Char} (h : Row width cs n) :
    cs = paddedDigits width n := by
  have hcs := paddedDigits_ofDigitChars cs h.isDigit
  rw [h.length, h.value] at hcs
  exact hcs.symm

section

variable {y m d : List Char}

theorem isShaped_form (hy : y.length = 4) (hm : m.length = 2) (hd : d.length = 2) :
    isShaped (y ++ '-' :: m ++ '-' :: d) = true := by
  have h4 : (y ++ '-' :: m ++ '-' :: d)[4]? = some '-' := by simp [hy]
  have h7 : (y ++ '-' :: m ++ '-' :: d)[7]? = some '-' := by
    rw [List.getElem?_append_right (by simp [hy, hm])]
    simp [hy, hm]
  rw [isShaped, h4, h7]
  simp [hy, hm, hd]

theorem parts_form (hy : y.length = 4) (hm : m.length = 2) (hd : d.length = 2) :
    (y ++ '-' :: m ++ '-' :: d).take 4 = y ∧
    ((y ++ '-' :: m ++ '-' :: d).drop 5).take 2 = m ∧
    ((y ++ '-' :: m ++ '-' :: d).drop 8).take 2 = d := by
  have hdrop5 : (y ++ '-' :: m ++ '-' :: d).drop 5 = m ++ '-' :: d := by
    rw [List.append_assoc, List.cons_append, List.append_cons]
    exact List.drop_left' (by rw [List.length_append, hy, List.length_singleton])
  have hdrop8 : (y ++ '-' :: m ++ '-' :: d).drop 8 = d := by
    rw [show (8 : Nat) = 5 + 3 by rfl, ← List.drop_drop, hdrop5, List.append_cons]
    exact List.drop_left' (by rw [List.length_append, hm, List.length_singleton])
  refine ⟨?_, ?_, ?_⟩
  · rw [List.append_assoc]
    exact List.take_left' hy
  · rw [hdrop5]
    exact List.take_left' hm
  · rw [hdrop8]
    exact List.take_of_length_le hd.le

end

/-- The outer shape of a date fixes where its three parts are. -/
theorem eq_of_isShaped {cs : List Char} (h : isShaped cs = true) :
    cs = cs.take 4 ++ '-' :: (cs.drop 5).take 2 ++ '-' :: (cs.drop 8).take 2 := by
  simp only [isShaped, Bool.and_eq_true, beq_iff_eq] at h
  obtain ⟨⟨hlen, h4⟩, h7⟩ := h
  have hdrop4 : cs.drop 4 = '-' :: cs.drop 5 := by
    obtain ⟨hlt, hget⟩ := List.getElem?_eq_some_iff.mp h4
    rw [List.drop_eq_getElem_cons hlt, hget]
  have hdrop7 : cs.drop 7 = '-' :: cs.drop 8 := by
    obtain ⟨hlt, hget⟩ := List.getElem?_eq_some_iff.mp h7
    rw [List.drop_eq_getElem_cons hlt, hget]
  have hdrop5 : cs.drop 5 = (cs.drop 5).take 2 ++ cs.drop 7 := by
    conv_lhs => rw [← List.take_append_drop 2 (cs.drop 5), List.drop_drop]
  have hdrop8 : (cs.drop 8).take 2 = cs.drop 8 := by
    apply List.take_of_length_le
    rw [List.length_drop, hlen]
  calc
    cs = cs.take 4 ++ cs.drop 4 := (List.take_append_drop 4 cs).symm
    _ = cs.take 4 ++ '-' :: cs.drop 5 := by rw [hdrop4]
    _ = cs.take 4 ++ '-' :: ((cs.drop 5).take 2 ++ cs.drop 7) := by rw [← hdrop5]
    _ = cs.take 4 ++ '-' :: ((cs.drop 5).take 2 ++ '-' :: (cs.drop 8).take 2) := by
        rw [hdrop7, hdrop8]
    _ = _ := by simp

/-! ## Reading what was written -/

/-- What a text in the form of a date is read as depends on its three numbers alone. -/
theorem ofText_of_hasParts {s : String} {year month day : Nat} (h : HasParts s year month day) :
    ofText s =
      if ¬ (1 ≤ month ∧ month ≤ 12) then .error .month
      else if ¬ (1 ≤ day ∧ day ≤ 31) then .error .day
      else if h : Calendar.IsDate year month day then .ok ⟨year, month, day, h⟩
      else .error .format := by
  obtain ⟨y, m, d, hs, hy, hm, hd⟩ := h
  obtain ⟨hytake, hmtake, hdtake⟩ := parts_form hy.length hm.length hd.length
  have hdigits : (y ++ m ++ d).all Char.isDigit = true := by
    rw [List.all_eq_true]
    intro c hc
    rw [List.mem_append, List.mem_append] at hc
    rcases hc with (hc | hc) | hc
    · exact hy.isDigit c hc
    · exact hm.isDigit c hc
    · exact hd.isDigit c hc
  rw [ofText, hs]
  unfold ofChars
  simp only [hytake, hmtake, hdtake, isShaped_form hy.length hm.length hd.length, hdigits,
    Bool.and_self, if_true, hy.value, hm.value, hd.value]

theorem ofText_of_not_hasParts {s : String}
    (h : ¬ ∃ year month day, HasParts s year month day) : ofText s = .error .format := by
  rw [ofText]
  unfold ofChars
  dsimp only
  rw [if_neg]
  intro hform
  rw [Bool.and_eq_true, List.all_eq_true] at hform
  obtain ⟨hshaped, hdigits⟩ := hform
  have hlen : s.toList.length = 10 := by
    simp only [isShaped, Bool.and_eq_true, beq_iff_eq] at hshaped
    exact hshaped.1.1
  refine h ⟨_, _, _, _, _, _, eq_of_isShaped hshaped, ⟨?_, ?_, rfl⟩, ⟨?_, ?_, rfl⟩, ?_, ?_, rfl⟩
  · simp [hlen]
  · exact fun c hc => isDigit_iff.mp (hdigits c (by simp [hc]))
  · simp [hlen]
  · exact fun c hc => isDigit_iff.mp (hdigits c (by simp [hc]))
  · simp [hlen]
  · exact fun c hc => isDigit_iff.mp (hdigits c (by simp [hc]))

theorem daysInMonth_le (year month : Nat) : Calendar.daysInMonth year month ≤ 31 := by
  unfold Calendar.daysInMonth
  split
  · split <;> decide
  · split <;> decide

theorem parts_lt (d : Date) : d.year < 10 ^ 4 ∧ d.month < 10 ^ 2 ∧ d.day < 10 ^ 2 := by
  obtain ⟨_, hyear, _, hmonth, _, hday⟩ := d.isDate
  have hdays := daysInMonth_le d.year d.month
  refine ⟨?_, ?_, ?_⟩ <;> norm_num <;> omega

/-- A text reads as the date whose numbers it has. -/
theorem ofText_eq_ok_iff_hasParts {s : String} {d : Date} :
    ofText s = .ok d ↔ HasParts s d.year d.month d.day := by
  constructor
  · intro h
    by_cases hparts : ∃ year month day, HasParts s year month day
    · obtain ⟨year, month, day, hparts⟩ := hparts
      rw [ofText_of_hasParts hparts] at h
      split at h
      · cases h
      · split at h
        · cases h
        · split at h
          · cases h
            exact hparts
          · cases h
    · rw [ofText_of_not_hasParts hparts] at h
      cases h
  · intro h
    obtain ⟨_, _, hmonth, hmonth', hday, hday'⟩ := d.isDate
    have hdays := daysInMonth_le d.year d.month
    rw [ofText_of_hasParts h, if_neg (by omega), if_neg (by omega), dif_pos d.isDate]

theorem hasParts_iff_eq_text {s : String} {d : Date} :
    HasParts s d.year d.month d.day ↔ s = d.text := by
  constructor
  · rintro ⟨y, m, d', hs, hy, hm, hd⟩
    rw [text, toChars, ← hy.eq_paddedDigits, ← hm.eq_paddedDigits, ← hd.eq_paddedDigits, ← hs,
      String.ofList_toList]
  · rintro rfl
    obtain ⟨hyear, hmonth, hday⟩ := parts_lt d
    exact ⟨_, _, _, by rw [text, String.toList_ofList, toChars], row_paddedDigits hyear,
      row_paddedDigits hmonth, row_paddedDigits hday⟩

/-- A text reads as a date exactly when it is that date's written form. -/
theorem ofText_eq_ok_iff {s : String} {d : Date} : ofText s = .ok d ↔ s = d.text :=
  ofText_eq_ok_iff_hasParts.trans hasParts_iff_eq_text

/-! ## Order -/

/-- Written dates compare as texts the way days follow each other. -/
theorem text_lt_text_iff {a b : Date} : a.text < b.text ↔ a < b := by
  obtain ⟨hay, ham, had⟩ := parts_lt a
  obtain ⟨hby, hbm, hbd⟩ := parts_lt b
  have hday : paddedDigits 2 a.day < paddedDigits 2 b.day ↔ a.day < b.day := by
    simpa using paddedDigits_append_lt_iff had hbd [] []
  show a.text.toList < b.text.toList ↔ _
  rw [text, text, String.toList_ofList, String.toList_ofList, toChars, toChars,
    List.append_assoc, List.append_assoc, paddedDigits_append_lt_iff hay hby,
    List.cons_append, List.cons_append, List.cons_lt_cons_iff,
    paddedDigits_append_lt_iff ham hbm, List.cons_lt_cons_iff, hday]
  simp only [lt_irrefl, true_and, false_or]
  rfl

end Remittance.Date
