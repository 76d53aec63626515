import Remittance.Proofs.Decision
import Remittance.Proofs.WrittenInstruction

/-!
# Totality

An amount up to the largest finite number can be moved between any snapshots
(`exists_transferAll?`), and no sentence can name a larger one. Processing then fails on a
payload of the wrong shape, and on a debt that is too long to be written (`process_total`).
-/

namespace Remittance

open Instruction

namespace Snapshot

theorem exists_transfer? (debitId creditId : String) {amount : Int}
    (h : amount.natAbs ≤ Binary64.largest) (s : Snapshot) :
    ∃ t, transfer? debitId creditId amount s = some t := by
  unfold transfer?
  split
  · obtain ⟨x, hx⟩ := s.balanceBefore.exists_minus? h
    exact ⟨_, by rw [hx]; rfl⟩
  · split
    · obtain ⟨x, hx⟩ := s.balanceBefore.exists_plus? h
      exact ⟨_, by rw [hx]; rfl⟩
    · exact ⟨s, rfl⟩

theorem exists_transferAll? (debitId creditId : String) {amount : Int}
    (h : amount.natAbs ≤ Binary64.largest) (snapshots : List Snapshot) :
    ∃ moved, transferAll? debitId creditId amount snapshots = some moved := by
  unfold transferAll?
  induction snapshots with
  | nil => exact ⟨[], rfl⟩
  | cons s rest ih =>
      obtain ⟨t, ht⟩ := exists_transfer? debitId creditId h s
      obtain ⟨moved, hmoved⟩ := ih
      exact ⟨t :: moved, by rw [List.mapM_cons, ht, hmoved]; rfl⟩

end Snapshot

namespace Instruction

theorem natAbs_le_largest_of_readAmount {token : Option String} {amount : Nat}
    (h : readAmount token = .ok amount) : (amount : Int).natAbs ≤ Binary64.largest := by
  obtain ⟨_, _, hamount⟩ := readAmount_eq_ok_iff.mp h
  obtain ⟨_, _, _, _, _, hle⟩ := hamount
  rwa [Int.natAbs_natCast]

end Instruction

/-- A payload has no verdict for its shape, or for a debt that is too long to be written. -/
theorem process_eq_error_iff {payload : Value} {today : Date} {failure : Failure} :
    process payload today = .error failure ↔
      (∃ violations, Request.ofValue payload = .error violations ∧
        failure = .payload violations) ∨
      ∃ request, Request.ofValue payload = .ok request ∧
        UnprintableText request.accounts request.instruction ∧ failure = .unprintable := by
  cases hshape : Request.ofValue payload with
  | error violations =>
      rw [process, readRequest, hshape]
      constructor
      · rintro ⟨⟩
        exact Or.inl ⟨violations, rfl, rfl⟩
      · rintro (⟨_, ⟨⟩, rfl⟩ | ⟨_, ⟨⟩, _⟩)
        rfl
  | ok request =>
      rcases process_cases hshape today with ⟨outcome, hok, _, hshort⟩ | ⟨herror, hlong⟩
      · rw [hok]
        refine iff_of_false nofun ?_
        rintro (⟨_, ⟨⟩, _⟩ | ⟨_, ⟨⟩, hlong, _⟩)
        exact hshort hlong
      · rw [herror]
        constructor
        · rintro ⟨⟩
          exact Or.inr ⟨request, rfl, hlong, rfl⟩
        · rintro (⟨_, ⟨⟩, _⟩ | ⟨_, _, _, rfl⟩)
          rfl

/-- Every payload of the right shape has a verdict while its debts can be written; only its
shape and such a debt can keep a payload from one. No snapshot of its accounts is refused,
and an amount that can be read overflows no conversion: it becomes a finite number and moves
between snapshots of whatever balances. -/
theorem process_total (payload : Value) (today : Date) :
    (∀ failure, process payload today = .error failure ↔
      (∃ violations, Request.ofValue payload = .error violations ∧
        failure = .payload violations) ∨
      ∃ request, Request.ofValue payload = .ok request ∧
        UnprintableText request.accounts request.instruction ∧ failure = .unprintable) ∧
    (∀ request, Request.ofValue payload = .ok request →
      ((∀ a ∈ request.accounts, a.ShortDebt) → ∃ verdict, process payload today = .ok verdict) ∧
      ∀ debitId creditId, ∃ selection,
        Selection.ofIds request.accounts debitId creditId = .ok selection) ∧
    ∀ token amount, readAmount token = .ok amount →
      (∃ negative magnitude, Binary64.ofInt? amount = some (.finite negative magnitude)) ∧
      ∀ debitId creditId snapshots, ∃ moved,
        Snapshot.transferAll? debitId creditId amount snapshots = some moved := by
  refine ⟨fun _ => process_eq_error_iff, ?_, ?_⟩
  · intro request hshape
    refine ⟨fun hdebts => ?_, fun debitId creditId => ?_⟩
    · exact (exists_verdict_or_unprintable hshape today).resolve_right fun hlong =>
        not_unprintableText hdebts _ hlong.2
    · obtain ⟨snapshots, hselect, _⟩ :=
        Selection.ofIds_eq_ok (Request.shaped_of_ofValue hshape) debitId creditId
      exact ⟨_, hselect⟩
  · intro token amount hread
    have hle := natAbs_le_largest_of_readAmount hread
    exact ⟨Binary64.ofInt?_eq_finite hle, fun debitId creditId =>
      Snapshot.exists_transferAll? debitId creditId hle⟩

/-- The largest amount that can be read, between two accounts that hold as much. -/
def brimRequest : Request where
  accounts :=
    [⟨"A1", .number (.double (.ofRatio false (Binary64.largest * Binary64.unitsPerOne) 1)),
        some "NGN"⟩,
      ⟨"A2", .number (.double (.ofRatio false (Binary64.largest * Binary64.unitsPerOne) 1)),
        some "NGN"⟩]
  instruction := written ⟨.debit, Binary64.largest, .ngn, "A1", "A2", none⟩

theorem process_total_brimRequest :
    Request.ofValue brimRequest.toValue = .ok brimRequest ∧
    (∀ a ∈ brimRequest.accounts, a.ShortDebt) ∧
    (∃ verdict, process brimRequest.toValue ⟨2026, 1, 15, by decide⟩ = .ok verdict) ∧
    (∃ selection, Selection.ofIds brimRequest.accounts (some "A1") (some "A2") = .ok selection) ∧
    readAmount (some (wholeText Binary64.largest)) = .ok Binary64.largest ∧
    ∃ negative magnitude,
      Binary64.ofInt? Binary64.largest = some (.finite negative magnitude) := by
  have hshaped : ∀ a ∈ brimRequest.accounts, a.Shaped := by
    simp only [brimRequest, List.forall_mem_cons]
    exact ⟨⟨⟨_, rfl, by decide +kernel⟩, _, rfl⟩, ⟨⟨_, rfl, by decide +kernel⟩, _, rfl⟩,
      List.forall_mem_nil _⟩
  have hshape : Request.ofValue brimRequest.toValue = .ok brimRequest :=
    Request.ofValue_payload _ (Request.accountsOf_accountsValue hshaped)
  have hread : readAmount (some (wholeText Binary64.largest)) = .ok Binary64.largest :=
    readAmount_eq_ok_iff.mpr ⟨_, rfl, isAmount_wholeText (by decide +kernel) le_rfl⟩
  obtain ⟨_, haccepted, hamount⟩ := process_total brimRequest.toValue ⟨2026, 1, 15, by decide⟩
  obtain ⟨hverdict, hselection⟩ := haccepted _ hshape
  have hdebts : ∀ a ∈ brimRequest.accounts, a.ShortDebt := by
    simp only [brimRequest, List.forall_mem_cons]
    exact ⟨nofun, nofun, List.forall_mem_nil _⟩
  exact ⟨hshape, hdebts, hverdict hdebts, hselection _ _, hread, (hamount _ _ hread).1⟩

end Remittance
