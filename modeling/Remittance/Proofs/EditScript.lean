import Mathlib.Data.List.Infix
import Mathlib.Order.Bounds.Basic
import Mathlib.Order.MinMax
import Remittance.Text.EditDistance

/-!
# Edit scripts

A script turns one text into another by edits anywhere in it, one after another, each of
which inserts, deletes or replaces a single character. The recurrence `charDistance` on the
first characters gives the length of a shortest one: there is a script of that length because
the recurrence can be followed backwards, and no script is shorter because one edit changes
the distance to any third text by at most one. The table of distances grows at the other end,
so it meets the recurrence because scripts can be reversed (`editDistance_eq`), and the edit
distance is a shortest length too (`editDistance_isLeast`). Near texts are then the single
typos (`isNear_iff`).
-/

namespace Remittance.Text

/-- One character is inserted, deleted or replaced. -/
inductive Edit : List Char → List Char → Prop
  | insert (p s : List Char) (x : Char) : Edit (p ++ s) (p ++ x :: s)
  | delete (p s : List Char) (x : Char) : Edit (p ++ x :: s) (p ++ s)
  | replace (p s : List Char) (x y : Char) : Edit (p ++ x :: s) (p ++ y :: s)

/-- So many edits, one after another, turn the one text into the other. -/
inductive Script : Nat → List Char → List Char → Prop
  | nil (xs : List Char) : Script 0 xs xs
  | cons {n : Nat} {xs ys zs : List Char} : Edit xs ys → Script n ys zs → Script (n + 1) xs zs

/-- Two different neighbours have changed places. -/
def Swapped (xs ys : List Char) : Prop :=
  ∃ p s x y, x ≠ y ∧ xs = p ++ x :: y :: s ∧ ys = p ++ y :: x :: s

/-! ## The algebra of scripts -/

theorem Edit.symm {xs ys : List Char} (h : Edit xs ys) : Edit ys xs := by
  cases h with
  | insert p s x => exact .delete p s x
  | delete p s x => exact .insert p s x
  | replace p s x y => exact .replace p s y x

theorem Edit.cons {xs ys : List Char} (h : Edit xs ys) (z : Char) : Edit (z :: xs) (z :: ys) := by
  cases h with
  | insert p s x => exact .insert (z :: p) s x
  | delete p s x => exact .delete (z :: p) s x
  | replace p s x y => exact .replace (z :: p) s x y

theorem Edit.reverse {xs ys : List Char} (h : Edit xs ys) : Edit xs.reverse ys.reverse := by
  cases h with
  | insert p s x => simpa using Edit.insert s.reverse p.reverse x
  | delete p s x => simpa using Edit.delete s.reverse p.reverse x
  | replace p s x y => simpa using Edit.replace s.reverse p.reverse x y

namespace Script

theorem single {xs ys : List Char} (h : Edit xs ys) : Script 1 xs ys :=
  .cons h (.nil ys)

theorem trans {n m : Nat} {xs ys zs : List Char} (h : Script n xs ys) (h' : Script m ys zs) :
    Script (n + m) xs zs := by
  induction h with
  | nil xs => simpa using h'
  | @cons n _ _ _ hedit _ ih =>
      rw [Nat.add_right_comm]
      exact .cons hedit (ih h')

theorem symm {n : Nat} {xs ys : List Char} (h : Script n xs ys) : Script n ys xs := by
  induction h with
  | nil xs => exact .nil xs
  | cons hedit _ ih => exact ih.trans (single hedit.symm)

theorem reverse {n : Nat} {xs ys : List Char} (h : Script n xs ys) :
    Script n xs.reverse ys.reverse := by
  induction h with
  | nil xs => exact .nil xs.reverse
  | cons hedit _ ih => exact .cons hedit.reverse ih

/-- A character in front of both texts is left alone. -/
theorem keep {n : Nat} {xs ys : List Char} (h : Script n xs ys) (z : Char) :
    Script n (z :: xs) (z :: ys) := by
  induction h with
  | nil xs => exact .nil (z :: xs)
  | cons hedit _ ih => exact .cons (hedit.cons z) ih

theorem dropHead {n : Nat} {xs ys : List Char} (h : Script n xs ys) (x : Char) :
    Script (n + 1) (x :: xs) ys :=
  .cons (.delete [] xs x) h

theorem addHead {n : Nat} {xs ys : List Char} (h : Script n xs ys) (y : Char) :
    Script (n + 1) xs (y :: ys) :=
  h.trans (single (.insert [] ys y))

theorem replaceHead {n : Nat} {xs ys : List Char} (h : Script n xs ys) (x y : Char) :
    Script (n + 1) (x :: xs) (y :: ys) :=
  .cons (.replace [] xs x y) (h.keep y)

theorem zero_iff {xs ys : List Char} : Script 0 xs ys ↔ xs = ys := by
  constructor
  · rintro ⟨⟩
    rfl
  · rintro rfl
    exact .nil xs

theorem one_iff {xs ys : List Char} : Script 1 xs ys ↔ Edit xs ys := by
  constructor
  · rintro (_ | ⟨hedit, hrest⟩)
    rwa [← zero_iff.mp hrest]
  · exact single

theorem all_inserted (ys : List Char) : Script ys.length [] ys := by
  induction ys with
  | nil => exact .nil []
  | cons y ys ih => exact ih.addHead y

end Script

/-! ## The recurrence -/

/-- The distance by recurrence on the first characters. -/
def charDistance : List Char → List Char → Nat
  | [], ys => ys.length
  | x :: xs, [] => (x :: xs).length
  | x :: xs, y :: ys =>
    min (min (charDistance xs (y :: ys) + 1) (charDistance (x :: xs) ys + 1))
      (charDistance xs ys + if x = y then 0 else 1)
termination_by xs ys => xs.length + ys.length

theorem charDistance_nil_left (ys : List Char) : charDistance [] ys = ys.length := by
  rw [charDistance]

theorem charDistance_nil_right (xs : List Char) : charDistance xs [] = xs.length := by
  cases xs <;> rw [charDistance]

theorem charDistance_cons_cons (x y : Char) (xs ys : List Char) :
    charDistance (x :: xs) (y :: ys) =
      min (min (charDistance xs (y :: ys) + 1) (charDistance (x :: xs) ys + 1))
        (charDistance xs ys + if x = y then 0 else 1) := by
  rw [charDistance]

/-! ## A script of that length -/

theorem script_charDistance (xs ys : List Char) : Script (charDistance xs ys) xs ys := by
  induction xs generalizing ys with
  | nil =>
      rw [charDistance_nil_left]
      exact .all_inserted ys
  | cons x xs ihx =>
      induction ys with
      | nil =>
          rw [charDistance_nil_right]
          exact (Script.all_inserted (x :: xs)).symm
      | cons y ys ihy =>
          have hdelete := (ihx (y :: ys)).dropHead x
          have hinsert := ihy.addHead y
          have hdiagonal : Script (charDistance xs ys + if x = y then 0 else 1)
              (x :: xs) (y :: ys) := by
            by_cases hxy : x = y
            · subst hxy
              simpa using (ihx ys).keep x
            · simpa [hxy] using (ihx ys).replaceHead x y
          -- the entry is one of its three candidates
          rw [charDistance_cons_cons]
          rcases min_choice (min (charDistance xs (y :: ys) + 1) (charDistance (x :: xs) ys + 1))
              (charDistance xs ys + if x = y then 0 else 1) with h | h
          · rw [h]
            rcases min_choice (charDistance xs (y :: ys) + 1) (charDistance (x :: xs) ys + 1)
              with h | h
            · rwa [h]
            · rwa [h]
          · rwa [h]

/-! ## No shorter script -/

theorem charDistance_cons_right_le (xs : List Char) (y : Char) (ys : List Char) :
    charDistance xs (y :: ys) ≤ charDistance xs ys + 1 := by
  cases xs with
  | nil => simp [charDistance_nil_left]
  | cons x xs =>
      rw [charDistance_cons_cons]
      omega

theorem charDistance_cons_left_le (x : Char) (xs ys : List Char) :
    charDistance (x :: xs) ys ≤ charDistance xs ys + 1 := by
  cases ys with
  | nil => simp [charDistance_nil_right]
  | cons y ys =>
      rw [charDistance_cons_cons]
      omega

theorem le_charDistance_cons_left (x : Char) (xs ys : List Char) :
    charDistance xs ys ≤ charDistance (x :: xs) ys + 1 := by
  induction ys with
  | nil =>
      simp only [charDistance_nil_right, List.length_cons]
      omega
  | cons y ys ih =>
      have hright := charDistance_cons_right_le xs y ys
      rw [charDistance_cons_cons]
      omega

theorem charDistance_replaceHead_le (x y : Char) (xs zs : List Char) :
    charDistance (x :: xs) zs ≤ charDistance (y :: xs) zs + 1 := by
  induction zs with
  | nil => simp [charDistance_nil_right]
  | cons z zs ih =>
      simp only [charDistance_cons_cons]
      have hcost : (if x = z then 0 else 1) ≤ 1 := by
        split <;> omega
      omega

/-- What holds of the distances from two texts to every third one still holds when both
texts get the same first character. -/
theorem charDistance_keep_le {xs ys : List Char}
    (h : ∀ zs, charDistance xs zs ≤ charDistance ys zs + 1) (x : Char) (zs : List Char) :
    charDistance (x :: xs) zs ≤ charDistance (x :: ys) zs + 1 := by
  induction zs with
  | nil =>
      have hlength := h []
      simp only [charDistance_nil_right, List.length_cons] at hlength ⊢
      omega
  | cons z zs ih =>
      have hlong := h (z :: zs)
      have hshort := h zs
      simp only [charDistance_cons_cons]
      omega

theorem charDistance_append_le {xs ys : List Char}
    (h : ∀ zs, charDistance xs zs ≤ charDistance ys zs + 1) (p zs : List Char) :
    charDistance (p ++ xs) zs ≤ charDistance (p ++ ys) zs + 1 := by
  induction p generalizing zs with
  | nil => exact h zs
  | cons x p ih => exact charDistance_keep_le ih x zs

/-- One edit changes the distance to another text by at most one. -/
theorem Edit.charDistance_le {xs ys : List Char} (h : Edit xs ys) (zs : List Char) :
    charDistance xs zs ≤ charDistance ys zs + 1 := by
  cases h with
  | insert p s x => exact charDistance_append_le (le_charDistance_cons_left x s) p zs
  | delete p s x => exact charDistance_append_le (charDistance_cons_left_le x s) p zs
  | replace p s x y => exact charDistance_append_le (charDistance_replaceHead_le x y s) p zs

theorem charDistance_self (xs : List Char) : charDistance xs xs = 0 := by
  induction xs with
  | nil => exact charDistance_nil_left []
  | cons x xs ih => simp [charDistance_cons_cons, ih]

theorem Script.charDistance_le {n : Nat} {xs ys : List Char} (h : Script n xs ys) :
    charDistance xs ys ≤ n := by
  induction h with
  | nil xs => rw [charDistance_self]
  | @cons n xs ys zs hedit _ ih =>
      have hstep := hedit.charDistance_le zs
      omega

/-- The distance is the least length of a script. -/
theorem charDistance_le_iff {n : Nat} {xs ys : List Char} :
    charDistance xs ys ≤ n ↔ ∃ m ≤ n, Script m xs ys := by
  constructor
  · intro h
    exact ⟨_, h, script_charDistance xs ys⟩
  · rintro ⟨m, hm, hscript⟩
    exact le_trans hscript.charDistance_le hm

theorem charDistance_eq_zero_iff {xs ys : List Char} : charDistance xs ys = 0 ↔ xs = ys := by
  constructor
  · intro h
    have hscript := script_charDistance xs ys
    rw [h] at hscript
    exact Script.zero_iff.mp hscript
  · rintro rfl
    exact charDistance_self xs

theorem charDistance_le_comm (xs ys : List Char) : charDistance xs ys ≤ charDistance ys xs :=
  (script_charDistance ys xs).symm.charDistance_le

/-! ## The table of distances -/

theorem charDistance_reverse (xs ys : List Char) :
    charDistance xs.reverse ys.reverse = charDistance xs ys := by
  apply le_antisymm
  · exact (script_charDistance xs ys).reverse.charDistance_le
  · simpa using (script_charDistance xs.reverse ys.reverse).reverse.charDistance_le

/-- The recurrence on the last characters. -/
theorem charDistance_concat_concat (xs ys : List Char) (x y : Char) :
    charDistance (xs ++ [x]) (ys ++ [y]) =
      min (min (charDistance xs (ys ++ [y]) + 1) (charDistance (xs ++ [x]) ys + 1))
        (charDistance xs ys + if x = y then 0 else 1) := by
  have h := charDistance_cons_cons x y xs.reverse ys.reverse
  have hrow := charDistance_reverse xs (ys ++ [y])
  have hcolumn := charDistance_reverse (xs ++ [x]) ys
  have hboth := charDistance_reverse (xs ++ [x]) (ys ++ [y])
  simp only [List.reverse_append, List.reverse_singleton, List.singleton_append]
    at hrow hcolumn hboth
  rw [← hrow, ← hcolumn, ← hboth, ← charDistance_reverse xs ys]
  exact h

/-- Under the distances from `xs` to `ys` and to the longer beginnings of `ys ++ zs` stand the
distances from `xs ++ [x]`. -/
theorem restOfRow_eq (xs : List Char) (x : Char) (ys zs : List Char) :
    charDistance (xs ++ [x]) ys :: restOfRow x (charDistance (xs ++ [x]) ys) zs
        (zs.inits.map fun p => charDistance xs (ys ++ p)) =
      zs.inits.map fun p => charDistance (xs ++ [x]) (ys ++ p) := by
  induction zs generalizing ys with
  | nil => simp [restOfRow]
  | cons z zs ih =>
      have hstep := ih (ys ++ [z])
      have hentry := charDistance_concat_concat xs ys x z
      have habove : (zs.inits.map fun p => charDistance xs (ys ++ [z] ++ p)) =
          charDistance xs (ys ++ [z]) :: (zs.inits.tail.map fun p =>
            charDistance xs (ys ++ [z] ++ p)) := by
        cases zs <;> simp
      simp only [List.append_assoc, List.singleton_append] at hstep habove
      simp only [List.inits_cons, List.map_cons, List.map_map, Function.comp_def,
        List.append_nil]
      rw [← hstep, habove, restOfRow, hentry]

theorem map_length_inits (ys : List Char) :
    ys.inits.map List.length = List.range (ys.length + 1) := by
  induction ys with
  | nil => rfl
  | cons y ys ih =>
      rw [List.length_cons, List.range_succ_eq_map, ← ih]
      simp [Function.comp_def]

/-- The last row of the table holds the distances to every beginning of the second text. -/
theorem distanceRow_eq (xs ys : List Char) :
    distanceRow xs ys = ys.inits.map (charDistance xs) := by
  induction xs using List.reverseRecOn with
  | nil =>
      rw [funext charDistance_nil_left, map_length_inits]
      rfl
  | append_singleton xs x ih =>
      have hrow := restOfRow_eq xs x [] ys
      simp only [charDistance_nil_right, List.nil_append, List.length_append,
        List.length_singleton] at hrow
      rw [distanceRow, List.zipIdx_append, List.foldl_append, ← distanceRow, ih, ← hrow,
        Nat.add_comm xs.length 1]
      rfl

theorem distanceRow_getLastD (xs ys : List Char) :
    (distanceRow xs ys).getLastD 0 = charDistance xs ys := by
  rw [distanceRow_eq, List.getLastD_eq_getLast?, List.getLast?_eq_getElem?]
  simp

/-- The table and its shortcuts give the distance of the recurrence. -/
theorem editDistance_eq (a b : String) : editDistance a b = charDistance a.toList b.toList := by
  rw [editDistance, distanceRow_getLastD]
  split_ifs with hab ha hb
  · rw [hab, charDistance_self]
  · rw [String.isEmpty_iff.mp ha, String.toList_empty, charDistance_nil_left,
      String.length_toList]
  · rw [String.isEmpty_iff.mp hb, String.toList_empty, charDistance_nil_right,
      String.length_toList]
  · rfl

/-- The edit distance is the least number of single-character edits that turn one text into
the other. It vanishes for equal texts only, is the same in both directions, and a detour
over a third text is never shorter. -/
theorem editDistance_isLeast (a b : String) :
    IsLeast {n | Script n a.toList b.toList} (editDistance a b) ∧
    (editDistance a b = 0 ↔ a = b) ∧
    editDistance a b = editDistance b a ∧
    ∀ c, editDistance a c ≤ editDistance a b + editDistance b c := by
  simp only [editDistance_eq]
  refine ⟨⟨script_charDistance _ _, ?_⟩, ?_, ?_, ?_⟩
  · intro n hn
    exact Script.charDistance_le hn
  · exact charDistance_eq_zero_iff.trans String.toList_inj
  · exact le_antisymm (charDistance_le_comm _ _) (charDistance_le_comm _ _)
  · intro c
    exact ((script_charDistance _ b.toList).trans (script_charDistance _ c.toList)).charDistance_le

/-! ## Near misses -/

theorem Swapped.symm {xs ys : List Char} (h : Swapped xs ys) : Swapped ys xs := by
  obtain ⟨p, s, x, y, hxy, hxs, hys⟩ := h
  exact ⟨p, s, y, x, hxy.symm, hys, hxs⟩

theorem Swapped.keep {xs ys : List Char} (h : Swapped xs ys) (z : Char) :
    Swapped (z :: xs) (z :: ys) := by
  obtain ⟨p, s, x, y, hxy, rfl, rfl⟩ := h
  exact ⟨z :: p, s, x, y, hxy, rfl, rfl⟩

theorem differences_cons (x y : Char) (xs ys : List Char) :
    differences (x :: xs) (y :: ys) =
      (if x = y then [] else [0]) ++ (differences xs ys).map (· + 1) := by
  rw [differences, List.zip_cons_cons, List.zipIdx_cons, List.zipIdx_succ, List.filter_cons,
    List.filter_map]
  split_ifs <;> simp_all [differences, Function.comp_def]

theorem differences_eq_nil_iff {xs ys : List Char} (hlength : xs.length = ys.length) :
    differences xs ys = [] ↔ xs = ys := by
  induction xs generalizing ys with
  | nil => simp [differences, List.eq_nil_of_length_eq_zero hlength.symm]
  | cons x xs ih =>
      obtain _ | ⟨y, ys⟩ := ys
      · cases hlength
      · by_cases hxy : x = y
        · simp [differences_cons, hxy, ih (Nat.succ_injective hlength)]
        · simp [differences_cons, hxy]

theorem charsSwapped_cons_self (x : Char) (xs ys : List Char) :
    charsSwapped (x :: xs) (x :: ys) = charsSwapped xs ys := by
  simp only [charsSwapped, differences_cons, if_pos, List.nil_append]
  rcases differences xs ys with _ | ⟨i, _ | ⟨j, _ | ⟨k, rest⟩⟩⟩ <;> simp [crossedAt]

/-- The first two places of a swap that begins at once. -/
theorem charsSwapped_cons_of_ne {x y : Char} (hxy : x ≠ y) (xs ys : List Char) :
    charsSwapped (x :: xs) (y :: ys) = true ↔ ∃ s, xs = y :: s ∧ ys = x :: s := by
  constructor
  · intro h
    obtain ⟨hlength, hcrossed⟩ : xs.length = ys.length ∧
        crossedAt (x :: xs) (y :: ys) (0 :: (differences xs ys).map (· + 1)) = true := by
      simpa [charsSwapped, differences_cons, hxy] using h
    -- the second difference is the only other one, and at the next place
    obtain ⟨hrest, hx, hy⟩ : differences xs ys = [0] ∧ xs[0]? = some y ∧ ys[0]? = some x := by
      rcases hrest : differences xs ys with _ | ⟨j, _ | ⟨k, rest⟩⟩
      · simp [crossedAt, hrest] at hcrossed
      · obtain ⟨⟨rfl, hy⟩, hx⟩ : (j = 0 ∧ some x = ys[j]?) ∧ xs[j]? = some y := by
          simpa [crossedAt, hrest] using hcrossed
        exact ⟨rfl, hx, hy.symm⟩
      · simp [crossedAt, hrest] at hcrossed
    obtain ⟨s, rfl⟩ := List.head?_eq_some_iff.mp (List.head?_eq_getElem?.trans hx)
    obtain ⟨t, rfl⟩ := List.head?_eq_some_iff.mp (List.head?_eq_getElem?.trans hy)
    have hsame : differences s t = [] := by
      simpa [differences_cons, hxy.symm] using hrest
    exact ⟨s, rfl, by rw [(differences_eq_nil_iff (Nat.succ_injective hlength)).mp hsame]⟩
  · rintro ⟨s, rfl, rfl⟩
    have hrest : differences s s = [] := (differences_eq_nil_iff rfl).mpr rfl
    simp [charsSwapped, differences_cons, crossedAt, hxy, hxy.symm, hrest]

theorem charsSwapped_iff {xs ys : List Char} : charsSwapped xs ys = true ↔ Swapped xs ys := by
  constructor
  · intro h
    induction xs generalizing ys with
    | nil => simp [charsSwapped, differences, crossedAt] at h
    | cons x xs ih =>
        obtain _ | ⟨y, ys⟩ := ys
        · cases h
        · by_cases hxy : x = y
          · subst hxy
            rw [charsSwapped_cons_self] at h
            exact (ih h).keep x
          · obtain ⟨s, rfl, rfl⟩ := (charsSwapped_cons_of_ne hxy xs ys).mp h
            exact ⟨[], s, x, y, hxy, rfl, rfl⟩
  · rintro ⟨p, s, x, y, hxy, rfl, rfl⟩
    induction p with
    | nil => exact (charsSwapped_cons_of_ne hxy _ _).mpr ⟨s, rfl, rfl⟩
    | cons z p ih => exact (charsSwapped_cons_self z _ _).trans ih

theorem charDistance_le_one_iff {xs ys : List Char} :
    charDistance xs ys ≤ 1 ↔ xs = ys ∨ Edit xs ys := by
  rw [charDistance_le_iff, ← Script.zero_iff, ← Script.one_iff]
  constructor
  · rintro ⟨m, hm, hscript⟩
    rcases Nat.le_one_iff_eq_zero_or_eq_one.mp hm with rfl | rfl
    · exact Or.inl hscript
    · exact Or.inr hscript
  · rintro (h | h)
    · exact ⟨0, zero_le_one, h⟩
    · exact ⟨1, le_rfl, h⟩

/-- Near texts are equal, or one typo apart: a character inserted, deleted or replaced, or
two different neighbours swapped. A swap is recognised for itself, and neither relation
depends on which of the texts comes first. -/
theorem isNear_iff (a b : String) :
    (isNear a b = true ↔
      a = b ∨ Edit a.toList b.toList ∨ Swapped a.toList b.toList) ∧
    (isSwap a b = true ↔ Swapped a.toList b.toList) ∧
    isNear a b = isNear b a ∧ isSwap a b = isSwap b a := by
  have hswap : ∀ a b : String, isSwap a b = true ↔ Swapped a.toList b.toList :=
    fun _ _ => charsSwapped_iff
  have hnear : ∀ a b : String, isNear a b = true ↔
      a = b ∨ Edit a.toList b.toList ∨ Swapped a.toList b.toList := by
    intro a b
    rw [isNear, Bool.or_eq_true, decide_eq_true_eq, hswap, editDistance_eq, charDistance_le_one_iff,
      String.toList_inj, or_assoc]
  have hswap_comm : isSwap a b = isSwap b a := by
    rw [Bool.eq_iff_iff, hswap, hswap]
    exact ⟨Swapped.symm, Swapped.symm⟩
  refine ⟨hnear a b, hswap a b, ?_, hswap_comm⟩
  rw [Bool.eq_iff_iff, hnear, hnear]
  refine or_congr eq_comm (or_congr ?_ ?_)
  · exact ⟨Edit.symm, Edit.symm⟩
  · exact ⟨Swapped.symm, Swapped.symm⟩

end Remittance.Text
