import Mathlib
import Remittance.Account.Snapshot
import Remittance.Proofs.Rounding
import Remittance.Proofs.WellShaped

/-!
# The accounts of an instruction

Of the accounts with one id only the first counts (`IsFirst`). On shaped accounts a
selection always exists and reports the first account that pays and the first that is
paid, without the second when it is the first (`ofIds_eq_ok`). Moving an amount
between two such reports never fails (`transferAll?_eq_some`).
-/

namespace Remittance

/-- The first account of a list with a given id. -/
inductive IsFirst : List Account → String → Account → Prop
  | here {a : Account} {rest : List Account} {id : String} (hid : a.id = id) :
      IsFirst (a :: rest) id a
  | there {a b : Account} {rest : List Account} {id : String} (hb : b.id ≠ id)
      (h : IsFirst rest id a) : IsFirst (b :: rest) id a

theorem find?_eq_some_iff_isFirst {accounts : List Account} {id : String} {a : Account} :
    Account.find? accounts (some id) = some a ↔ IsFirst accounts id a := by
  rw [Account.find?, Option.bind_some]
  constructor
  · intro h
    induction accounts with
    | nil => cases h
    | cons b rest ih =>
        by_cases hb : b.id = id
        · rw [List.find?_cons_of_pos (by simpa using hb)] at h
          cases h
          exact .here hb
        · rw [List.find?_cons_of_neg (by simpa using hb)] at h
          exact .there hb (ih h)
  · intro h
    induction h with
    | here hid => rw [List.find?_cons_of_pos (by simpa using hid)]
    | there hb _ ih => rw [List.find?_cons_of_neg (by simpa using hb), ih]

theorem IsFirst.unique {accounts : List Account} {id : String} {a b : Account}
    (ha : IsFirst accounts id a) (hb : IsFirst accounts id b) : a = b := by
  rw [← find?_eq_some_iff_isFirst] at ha hb
  rw [ha] at hb
  exact Option.some.inj hb

theorem IsFirst.mem {accounts : List Account} {id : String} {a : Account}
    (h : IsFirst accounts id a) : a ∈ accounts := by
  induction h with
  | here _ => exact List.mem_cons_self
  | there _ _ ih => exact List.mem_cons_of_mem _ ih

theorem IsFirst.id_eq {accounts : List Account} {id : String} {a : Account}
    (h : IsFirst accounts id a) : a.id = id := by
  induction h with
  | here hid => exact hid
  | there _ _ ih => exact ih

/-! ## Reports -/

namespace Snapshot

/-- The snapshot reports the account as it is. -/
structure Reports (s : Snapshot) (a : Account) : Prop where
  id : s.id = a.id
  balance : a.balance = .number s.balance
  balanceBefore : s.balanceBefore = s.balance
  currency : s.currency = a.currencyCode

theorem ofAccount_of_finite {a : Account} {n : Number} (hn : a.balance = .number n)
    (hfinite : n.isFinite = true) : ofAccount a = .ok ⟨a.id, n, n, a.currencyCode⟩ := by
  rw [ofAccount, hn]
  match n with
  | .whole _ | .double (.finite _ _) => rfl
  | .double (.infinite _) | .double .nan => cases hfinite

theorem exists_reports {a : Account} (h : a.Shaped) :
    ∃ s, ofAccount a = .ok s ∧ s.Reports a := by
  obtain ⟨n, hbalance, hn⟩ := h.balance
  exact ⟨_, ofAccount_of_finite hbalance hn, rfl, hbalance, rfl, rfl⟩

theorem exists_reports_option {a : Option Account} (h : ∀ b ∈ a, b.Shaped) :
    ∃ s, a.mapM ofAccount = .ok s ∧ List.Forall₂ Reports s.toList a.toList := by
  cases a with
  | none => exact ⟨none, rfl, .nil⟩
  | some b =>
      obtain ⟨s, hs, hreports⟩ := exists_reports (h b rfl)
      exact ⟨some s, by rw [Option.mapM_some, hs]; rfl, .cons hreports .nil⟩

end Snapshot

namespace Selection

/-- The accounts that a verdict reports. -/
def reported (accounts : List Account) (debitId creditId : Option String) : List Account :=
  (Account.find? accounts debitId).toList ++
    ((Account.find? accounts creditId).filter fun a => some a.id != debitId).toList

theorem mem_of_find? {accounts : List Account} {id : Option String} {a : Account}
    (h : Account.find? accounts id = some a) : a ∈ accounts := by
  cases id with
  | none => cases h
  | some id => exact (find?_eq_some_iff_isFirst.mp h).mem

/-- Selecting from shaped accounts finds the first account of either id and reports
both, each once. -/
theorem ofIds_eq_ok {accounts : List Account} (h : ∀ a ∈ accounts, a.Shaped)
    (debitId creditId : Option String) :
    ∃ snapshots, ofIds accounts debitId creditId = .ok ⟨Account.find? accounts debitId,
        Account.find? accounts creditId, snapshots⟩ ∧
      List.Forall₂ Snapshot.Reports snapshots (reported accounts debitId creditId) := by
  have hdebit : ∀ a ∈ Account.find? accounts debitId, a.Shaped :=
    fun a ha => h a (mem_of_find? ha)
  have hcredit : ∀ a ∈ (Account.find? accounts creditId).filter fun a => some a.id != debitId,
      a.Shaped :=
    fun a ha => h a (mem_of_find? (Option.filter_eq_some_iff.mp ha).1)
  obtain ⟨s, hs, hsreports⟩ := Snapshot.exists_reports_option hdebit
  obtain ⟨t, ht, htreports⟩ := Snapshot.exists_reports_option hcredit
  -- neither snapshot is refused, so both binds go through
  refine ⟨s.toList ++ t.toList, ?_, List.rel_append hsreports htreports⟩
  unfold ofIds
  dsimp only
  rw [hs]
  show (_ >>= _) = _
  rw [ht]
  rfl

/-- Of two listed accounts with different ids both are reported, the one that pays
first. -/
theorem reported_eq_pair {accounts : List Account} {debitId creditId : String}
    {debit credit : Account} (hdebit : IsFirst accounts debitId debit)
    (hcredit : IsFirst accounts creditId credit) (hne : debitId ≠ creditId) :
    reported accounts (some debitId) (some creditId) = [debit, credit] := by
  rw [reported, find?_eq_some_iff_isFirst.mpr hdebit, find?_eq_some_iff_isFirst.mpr hcredit]
  have hother : (some credit.id != some debitId) = true := by
    rw [hcredit.id_eq]
    simpa using hne.symm
  rw [Option.filter_some, if_pos hother]
  rfl

end Selection

/-! ## Transfers -/

namespace Snapshot

/-- A transfer between two reports takes the amount from the first and adds it to the
second. -/
theorem transferAll?_eq_some {debitId creditId : String} {amount : Nat} {s t : Snapshot}
    (hs : s.id = debitId) (ht : t.id = creditId) (hne : debitId ≠ creditId)
    (hamount : amount ≤ Binary64.largest) :
    ∃ x y, s.balanceBefore.minus? amount = some x ∧ t.balanceBefore.plus? amount = some y ∧
      transferAll? debitId creditId amount [s, t] =
        some [{ s with balance := x }, { t with balance := y }] := by
  have habs : (amount : Int).natAbs ≤ Binary64.largest := by rwa [Int.natAbs_natCast]
  obtain ⟨x, hx⟩ := s.balanceBefore.exists_minus? habs
  obtain ⟨y, hy⟩ := t.balanceBefore.exists_plus? habs
  refine ⟨x, y, hx, hy, ?_⟩
  have hpayer : transfer? debitId creditId amount s = some { s with balance := x } := by
    rw [transfer?, if_pos hs, hx]
    rfl
  have hpayee : transfer? debitId creditId amount t = some { t with balance := y } := by
    -- the ids differ, so the second report is not taken for the first
    have ht' : t.id ≠ debitId := by
      rw [ht]
      exact hne.symm
    rw [transfer?, if_neg ht', if_pos ht, hy]
    rfl
  rw [transferAll?, List.mapM_cons, hpayer, List.mapM_cons, hpayee]
  rfl

end Snapshot

end Remittance
