/-!
# Decision tables

Checks that run one after another fail with the first thing that is wrong. A
decision table says so without running anything: conditions in order, each with
what it entails. `Follows` relates the two, and `follows_bind` carries the relation
from the parts of a run of checks to the whole.
-/

namespace Remittance

/-- Conditions in order, each with what it entails. -/
abbrev Table (α : Type) := List (Prop × α)

namespace Table

/-- No condition of the table holds. -/
def Clear {α : Type} (table : Table α) : Prop :=
  ∀ row ∈ table, ¬ row.1

/-- The first condition of the table that holds entails `a`. -/
inductive Selects {α : Type} : Table α → α → Prop
  | first {p : Prop} {a : α} {rest : Table α} (hp : p) : Selects ((p, a) :: rest) a
  | later {p : Prop} {a b : α} {rest : Table α} (hp : ¬ p) (h : Selects rest a) :
      Selects ((p, b) :: rest) a

/-- A run of checks follows a table: it passes when the table is clear, and else it
fails in the way that the table selects. -/
def Follows {α β ε : Type} (tells : ε → α → Prop) (table : Table α) : Except ε β → Prop
  | .ok _ => table.Clear
  | .error e => ∃ a, table.Selects a ∧ tells e a

variable {α β γ ε : Type} {tells : ε → α → Prop} {s t : Table α} {a b : α}

theorem clear_nil : Clear ([] : Table α) := by
  intro row hrow
  cases hrow

theorem clear_append (hs : s.Clear) (ht : t.Clear) : Clear (s ++ t) := by
  intro row hrow
  rcases List.mem_append.mp hrow with h | h
  · exact hs row h
  · exact ht row h

theorem selects_append_left (h : s.Selects a) : Selects (s ++ t) a := by
  induction h with
  | first hp => exact .first hp
  | later hp _ ih => exact .later hp ih

theorem selects_append_right (hs : s.Clear) (h : t.Selects a) : Selects (s ++ t) a := by
  induction s with
  | nil => exact h
  | cons row s ih =>
      have hrow : ¬ row.1 := hs row List.mem_cons_self
      exact .later hrow (ih fun r hr => hs r (List.mem_cons_of_mem row hr))

/-- What the first rows of a table do not entail is selected by the rows behind them, and no
condition before these holds. -/
theorem selects_drop {n : Nat} (hn : ∀ row ∈ t.take n, row.2 ≠ a) (h : t.Selects a) :
    Clear (t.take n) ∧ Selects (t.drop n) a := by
  induction n generalizing t with
  | zero => exact ⟨clear_nil, h⟩
  | succ n ih =>
      cases h with
      | first hp => exact absurd rfl (hn _ List.mem_cons_self)
      | later hp h =>
          obtain ⟨hrow, hrest⟩ := List.forall_mem_cons.mp hn
          obtain ⟨hclear, hselects⟩ := ih hrest h
          exact ⟨List.forall_mem_cons.mpr ⟨hp, hclear⟩, hselects⟩

theorem not_selects_of_clear (ht : t.Clear) : ¬ t.Selects a := by
  intro h
  induction h with
  | first hp => exact ht _ List.mem_cons_self hp
  | later _ _ ih => exact ih fun row hrow => ht row (List.mem_cons_of_mem _ hrow)

/-- A table selects at most one thing. -/
theorem selects_unique (ha : t.Selects a) (hb : t.Selects b) : a = b := by
  induction ha with
  | first hp =>
      cases hb with
      | first => rfl
      | later hn => exact absurd hp hn
  | later hn _ ih =>
      cases hb with
      | first hp => exact absurd hp hn
      | later _ h => exact ih h

theorem follows_of_clear_left {x : Except ε β} (hs : s.Clear) (hx : Follows tells t x) :
    Follows tells (s ++ t) x := by
  cases x with
  | ok b => exact clear_append hs hx
  | error e =>
      obtain ⟨d, hd, htells⟩ := hx
      exact ⟨d, selects_append_right hs hd, htells⟩

/-- A single check that passes exactly on what it is meant to pass. -/
theorem follows_of_ok_iff {x : Except ε β} {Q : β → Prop} {d : α}
    (hok : ∀ b, x = .ok b ↔ Q b) (herror : ∀ e, x = .error e → tells e d) :
    Follows tells [(¬ ∃ b, Q b, d)] x := by
  cases x with
  | ok b =>
      intro row hrow
      rw [List.mem_singleton] at hrow
      subst row
      exact not_not_intro ⟨b, (hok b).mp rfl⟩
  | error e =>
      refine ⟨d, .first ?_, herror e rfl⟩
      rintro ⟨b, hb⟩
      exact absurd ((hok b).mpr hb) (by simp)

/-- A guard in front of a check puts its row in front of the table. -/
theorem follows_guard {p q : Prop} [Decidable p] {e : ε} {x : Except ε β} (hpq : p ↔ q)
    (he : tells e a) (hx : Follows tells t x) :
    Follows tells ((q, a) :: t) (if p then .error e else x) := by
  by_cases hp : p
  · rw [if_pos hp]
    exact ⟨a, .first (hpq.mp hp), he⟩
  · rw [if_neg hp]
    have hq : ¬ q := fun h => hp (hpq.mpr h)
    cases x with
    | ok b =>
        intro row hrow
        rcases List.mem_cons.mp hrow with rfl | hrow
        · exact hq
        · exact hx row hrow
    | error e' =>
        obtain ⟨b, hb, htells⟩ := hx
        exact ⟨b, .later hq hb, htells⟩

/-- Checks in sequence follow their tables in sequence. -/
theorem follows_bind {x : Except ε β} {k : β → Except ε γ} (hx : Follows tells s x)
    (hk : ∀ b, x = .ok b → Follows tells t (k b)) : Follows tells (s ++ t) (x >>= k) := by
  cases x with
  | error e =>
      obtain ⟨d, hd, htells⟩ := hx
      exact ⟨d, selects_append_left hd, htells⟩
  | ok b =>
      show Follows tells (s ++ t) (k b)
      exact follows_of_clear_left hx (hk b rfl)

end Table

/-- A sequence of two checks passes when both do. -/
theorem bind_eq_ok_iff {α β ε : Type} {x : Except ε α} {k : α → Except ε β} {b : β} :
    (x >>= k) = .ok b ↔ ∃ a, x = .ok a ∧ k a = .ok b := by
  cases x with
  | error e => simp [bind, Except.bind]
  | ok a => simp [bind, Except.bind]

/-- A sequence of two checks fails with the first of them, or with the second when the first
passes. -/
theorem bind_eq_error_iff {α β ε : Type} {x : Except ε α} {k : α → Except ε β} {e : ε} :
    (x >>= k) = .error e ↔ x = .error e ∨ ∃ a, x = .ok a ∧ k a = .error e := by
  cases x with
  | error e' => simp [bind, Except.bind]
  | ok a => simp [bind, Except.bind]

end Remittance
