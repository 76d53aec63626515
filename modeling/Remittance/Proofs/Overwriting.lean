import Remittance.Account.Snapshot
import Remittance.Proofs.ExactValue
import Remittance.Proofs.Rounding

/-!
# Transfers overwrite

A transfer sets balances and never moves them on: what it makes of a snapshot depends on the
balance before and not on the balance (`Moved`), so a second transfer leaves nothing of a first
one (`transfer?_eq_of_moved`). It touches the snapshots of its two ids, however often they
occur, and nothing else of them than the balance. There is no result when an amount that is
rounded past the largest finite number meets a double (`transferAll?_eq_none_iff`).
-/

namespace Remittance

/-! ## Amounts and balances -/

namespace Binary64

theorem overflowFrom_eq : overflowFrom = 2 ^ 1024 - 2 ^ 970 := by
  decide +kernel

/-- An integer becomes a finite number unless it lies at least half a step above the largest
one. -/
theorem ofInt?_eq_none_iff {n : Int} : ofInt? n = none ↔ 2 ^ 1024 - 2 ^ 970 ≤ n.natAbs := by
  have hone : 0 < unitsPerOne := Nat.cast_pos.mp unitsPerOne_pos
  have hlimit : roundUnits (n.natAbs * unitsPerOne) 1 < unitsLimit ↔ n.natAbs < overflowFrom := by
    rw [roundUnits_lt_limit_iff, Nat.mul_lt_mul_right hone]
  rw [← overflowFrom_eq, ← Nat.not_lt, ← hlimit, ofInt?, ofRatio]
  split
  · rename_i h
    exact iff_of_false (Option.some_ne_none _) (not_not_intro h)
  · rename_i h
    exact iff_of_true rfl h

end Binary64

namespace Number

/-- What an operation makes of a number and an integer. Of whole numbers the result is exact; a
double takes the double nearest to the integer. -/
inductive Yields (whole : Int → Int → Int) (double : Binary64 → Binary64 → Binary64) (n : Int) :
    Number → Number → Prop
  | whole (value : Int) : Yields whole double n (.whole value) (.whole (whole value n))
  | double (value : Binary64) {nearest : Binary64} (h : Binary64.ofInt? n = some nearest) :
      Yields whole double n (.double value) (.double (double value nearest))

def IsSum (n : Int) : Number → Number → Prop :=
  Yields (· + ·) Binary64.add n

def IsDifference (n : Int) : Number → Number → Prop :=
  Yields (· - ·) Binary64.sub n

variable {x y : Number} {n : Int}

theorem yields_whole_iff {whole : Int → Int → Int} {double : Binary64 → Binary64 → Binary64}
    {value : Int} :
    Yields whole double n (.whole value) y ↔ some (.whole (whole value n)) = some y := by
  constructor
  · rintro ⟨⟩
    rfl
  · rintro ⟨⟩
    exact .whole value

theorem yields_double_iff {whole : Int → Int → Int} {double : Binary64 → Binary64 → Binary64}
    {value : Binary64} : Yields whole double n (.double value) y ↔
      (Binary64.ofInt? n).map (fun nearest => .double (double value nearest)) = some y := by
  rw [Option.map_eq_some_iff]
  constructor
  · rintro (_ | ⟨_, h⟩)
    exact ⟨_, h, rfl⟩
  · rintro ⟨nearest, h, rfl⟩
    exact .double value h

theorem plus?_eq_some_iff : x.plus? n = some y ↔ IsSum n x y := by
  cases x with
  | whole value => rw [plus?, IsSum, yields_whole_iff]
  | double value => rw [plus?, IsSum, yields_double_iff]

theorem minus?_eq_some_iff : x.minus? n = some y ↔ IsDifference n x y := by
  cases x with
  | whole value => rw [minus?, IsDifference, yields_whole_iff]
  | double value => rw [minus?, IsDifference, yields_double_iff]

/-- The amount has no double to meet the balance as. -/
def TooLargeFor (n : Int) (x : Number) : Prop :=
  (∃ value, x = .double value) ∧ 2 ^ 1024 - 2 ^ 970 ≤ n.natAbs

theorem plus?_eq_none_iff : x.plus? n = none ↔ TooLargeFor n x := by
  rw [TooLargeFor, ← Binary64.ofInt?_eq_none_iff]
  cases x <;> simp [plus?]

theorem minus?_eq_none_iff : x.minus? n = none ↔ TooLargeFor n x := by
  rw [TooLargeFor, ← Binary64.ofInt?_eq_none_iff]
  cases x <;> simp [minus?]

end Number

/-! ## One snapshot -/

namespace Snapshot

/-- What a transfer of `n` from the account `payer` to the account `payee` makes of a snapshot.
An account that is both only pays. -/
structure Moved (payer payee : String) (n : Int) (s t : Snapshot) : Prop where
  id : t.id = s.id
  currency : t.currency = s.currency
  balanceBefore : t.balanceBefore = s.balanceBefore
  paying : s.id = payer → Number.IsDifference n s.balanceBefore t.balance
  paid : s.id = payee → s.id ≠ payer → Number.IsSum n s.balanceBefore t.balance
  other : s.id ≠ payer → s.id ≠ payee → t = s

variable {payer payee : String} {n : Int} {s t : Snapshot}

theorem eq_of_balance {x : Number} (hid : t.id = s.id) (hcurrency : t.currency = s.currency)
    (hbefore : t.balanceBefore = s.balanceBefore) (hx : t.balance = x) :
    t = { s with balance := x } := by
  cases t
  cases hid
  cases hcurrency
  cases hbefore
  cases hx
  rfl

theorem transfer?_eq_some_iff : transfer? payer payee n s = some t ↔ Moved payer payee n s t := by
  unfold transfer?
  split
  · rename_i hpayer
    rw [Option.map_eq_some_iff]
    constructor
    · rintro ⟨x, hx, rfl⟩
      exact ⟨rfl, rfl, rfl, fun _ => Number.minus?_eq_some_iff.mp hx,
        fun _ hne => absurd hpayer hne, fun hne => absurd hpayer hne⟩
    · intro h
      exact ⟨t.balance, Number.minus?_eq_some_iff.mpr (h.paying hpayer),
        (eq_of_balance h.id h.currency h.balanceBefore rfl).symm⟩
  · rename_i hpayer
    split
    · rename_i hpayee
      rw [Option.map_eq_some_iff]
      constructor
      · rintro ⟨x, hx, rfl⟩
        exact ⟨rfl, rfl, rfl, fun h => absurd h hpayer,
          fun _ _ => Number.plus?_eq_some_iff.mp hx, fun _ hne => absurd hpayee hne⟩
      · intro h
        exact ⟨t.balance, Number.plus?_eq_some_iff.mpr (h.paid hpayee hpayer),
          (eq_of_balance h.id h.currency h.balanceBefore rfl).symm⟩
    · rename_i hpayee
      constructor
      · rintro ⟨⟩
        exact ⟨rfl, rfl, rfl, fun h => absurd h hpayer, fun h => absurd h hpayee, fun _ _ => rfl⟩
      · intro h
        rw [h.other hpayer hpayee]

theorem transfer?_eq_none_iff : transfer? payer payee n s = none ↔
    (s.id = payer ∨ s.id = payee) ∧ Number.TooLargeFor n s.balanceBefore := by
  unfold transfer?
  split
  · rename_i hpayer
    rw [Option.map_eq_none_iff, Number.minus?_eq_none_iff, and_iff_right (Or.inl hpayer)]
  · rename_i hpayer
    split
    · rename_i hpayee
      rw [Option.map_eq_none_iff, Number.plus?_eq_none_iff, and_iff_right (Or.inr hpayee)]
    · rename_i hpayee
      refine iff_of_false nofun ?_
      rintro ⟨h | h, _⟩
      · exact hpayer h
      · exact hpayee h

/-- A transfer makes the same of a snapshot that another one has moved. -/
theorem transfer?_eq_of_moved {m : Int} (h : Moved payer payee n s t) :
    transfer? payer payee m t = transfer? payer payee m s := by
  unfold transfer?
  rw [h.id, h.balanceBefore, h.currency]
  split
  · rfl
  · rename_i hpayer
    split
    · rfl
    · rename_i hpayee
      rw [h.other hpayer hpayee]

/-! ## Lists of snapshots -/

section

variable {before after : List Snapshot}

theorem transferAll?_cons : transferAll? payer payee n (s :: before) =
    (transfer? payer payee n s).bind fun t => (transferAll? payer payee n before).map (t :: ·) := by
  rw [transferAll?, List.mapM_cons]
  cases transfer? payer payee n s with
  | none => rfl
  | some t =>
      rw [Option.bind_some, transferAll?]
      cases List.mapM (transfer? payer payee n) before <;> rfl

theorem transferAll?_eq_some_iff : transferAll? payer payee n before = some after ↔
    List.Forall₂ (Moved payer payee n) before after := by
  induction before generalizing after with
  | nil => rw [List.forall₂_nil_left_iff, transferAll?, List.mapM_nil, Option.pure_def,
      Option.some.injEq, eq_comm]
  | cons s before ih =>
      simp only [transferAll?_cons, Option.bind_eq_some_iff, Option.map_eq_some_iff,
        transfer?_eq_some_iff, ih, List.forall₂_cons_left_iff]
      constructor
      · rintro ⟨t, ht, rest, hrest, rfl⟩
        exact ⟨t, rest, ht, hrest, rfl⟩
      · rintro ⟨t, rest, ht, hrest, rfl⟩
        exact ⟨t, ht, rest, hrest, rfl⟩

theorem transferAll?_eq_none_iff : transferAll? payer payee n before = none ↔
    ∃ s ∈ before, (s.id = payer ∨ s.id = payee) ∧ Number.TooLargeFor n s.balanceBefore := by
  induction before with
  | nil => exact iff_of_false nofun (by simp)
  | cons s before ih =>
      rw [transferAll?_cons, List.exists_mem_cons_iff, ← transfer?_eq_none_iff, ← ih]
      cases transfer? payer payee n s <;> simp

/-- A transfer makes the same of a list that another one has moved. -/
theorem transferAll?_eq_of_moved {m : Int} (h : List.Forall₂ (Moved payer payee n) before after) :
    transferAll? payer payee m after = transferAll? payer payee m before := by
  induction h with
  | nil => rfl
  | cons hs _ ih => rw [transferAll?_cons, transferAll?_cons, transfer?_eq_of_moved hs, ih]

end

/-- A transfer moves every snapshot of a list by itself: those of the account that pays lose
the amount from the balance before, others of the account that is paid gain it, and the rest
stay as they are. Moving the list again, by this amount or another, is as if it had not been
moved. There is no result exactly when one of the two accounts has a double as its balance
before and the amount is rounded past the largest finite number. -/
theorem transferAll?_overwrites (payer payee : String) (n : Int) (before : List Snapshot) :
    (∀ after, transferAll? payer payee n before = some after ↔
      List.Forall₂ (Moved payer payee n) before after) ∧
    (∀ m after, transferAll? payer payee n before = some after →
      transferAll? payer payee m after = transferAll? payer payee m before) ∧
    (transferAll? payer payee n before = none ↔
      (∃ s ∈ before, (s.id = payer ∨ s.id = payee) ∧ ∃ x, s.balanceBefore = .double x) ∧
        2 ^ 1024 - 2 ^ 970 ≤ n.natAbs) := by
  refine ⟨fun after => transferAll?_eq_some_iff, fun m after h => ?_, ?_⟩
  · exact transferAll?_eq_of_moved (transferAll?_eq_some_iff.mp h)
  · rw [transferAll?_eq_none_iff]
    constructor
    · rintro ⟨s, hs, hid, hdouble, hlarge⟩
      exact ⟨⟨s, hs, hid, hdouble⟩, hlarge⟩
    · rintro ⟨⟨s, hs, hid, hdouble⟩, hlarge⟩
      exact ⟨s, hs, hid, hdouble, hlarge⟩

/-- Snapshots with two ids that occur twice each, one of them of a double, and one that a
transfer has already moved. -/
def repeatedSnapshots : List Snapshot :=
  [⟨"A1", .whole 3, .whole 500, "NGN"⟩, ⟨"A2", .whole 50, .whole 50, "NGN"⟩,
    ⟨"A1", .double .zero, .double .zero, "USD"⟩, ⟨"A3", .whole 8, .whole 9, "GBP"⟩,
    ⟨"A2", .double (.infinite false), .double .zero, ""⟩]

theorem transferAll?_overwrites_repeatedSnapshots :
    (∃ after, transferAll? "A1" "A2" 100 repeatedSnapshots = some after ∧
      List.Forall₂ (Moved "A1" "A2" 100) repeatedSnapshots after ∧
      transferAll? "A1" "A2" 7 after = transferAll? "A1" "A2" 7 repeatedSnapshots) ∧
    transferAll? "A3" "A1" (2 ^ 1024 - 2 ^ 970) repeatedSnapshots = none := by
  constructor
  · obtain ⟨hmoves, hagain, _⟩ := transferAll?_overwrites "A1" "A2" 100 repeatedSnapshots
    have hsome : (transferAll? "A1" "A2" 100 repeatedSnapshots).isSome = true := by
      decide +kernel
    obtain ⟨after, hafter⟩ := Option.isSome_iff_exists.mp hsome
    exact ⟨after, hafter, (hmoves after).mp hafter, hagain 7 after hafter⟩
  · obtain ⟨_, _, hnone⟩ := transferAll?_overwrites "A3" "A1" (2 ^ 1024 - 2 ^ 970) repeatedSnapshots
    have hdouble : (⟨"A1", .double .zero, .double .zero, "USD"⟩ : Snapshot) ∈ repeatedSnapshots := by
      simp [repeatedSnapshots]
    exact hnone.mpr ⟨⟨_, hdouble, Or.inr rfl, _, rfl⟩, by decide +kernel⟩

end Snapshot

end Remittance
