import Remittance.Proofs.Violations

/-!
# Selecting from unchecked accounts

Accounts that no shape check has passed may hold anything as their balance. An id finds the
account of least index that has it (`find?_eq_some_iff_foundAt`), and a selection is refused
for the balances that it would report and for no others: first for that of the account that
pays, then for that of the account that is paid (`ofIds_eq_error_iff`). So the balances of all
other accounts may be what they like (`ofIds_rebalance`).
-/

namespace Remittance

open Shape

/-! ## What an id finds -/

namespace Account

/-- The account stands at the place, and none before it has its id. -/
structure FoundAt (accounts : List Account) (id : Option String) (i : Nat) (a : Account) :
    Prop where
  here : accounts[i]? = some a
  id_eq : id = some a.id
  least : ∀ j < i, ∀ b, accounts[j]? = some b → b.id ≠ a.id

/-- What is found under an id: of the accounts that have it the one of least index. -/
inductive Finds (accounts : List Account) (id : Option String) : Option Account → Prop
  | found {i : Nat} {a : Account} (h : FoundAt accounts id i a) : Finds accounts id (some a)
  | absent (h : ∀ a ∈ accounts, id ≠ some a.id) : Finds accounts id none

variable {accounts : List Account} {id : Option String} {a : Account}

theorem find?_eq_some_iff_foundAt : find? accounts id = some a ↔ ∃ i, FoundAt accounts id i a := by
  cases id with
  | none =>
      refine iff_of_false nofun ?_
      rintro ⟨i, h⟩
      cases h.id_eq
  | some id =>
      rw [find?, Option.bind_some, List.find?_eq_some_iff_getElem]
      constructor
      · rintro ⟨hid, i, hi, hhere, hleast⟩
        have hid' : a.id = id := by simpa using hid
        refine ⟨i, List.getElem?_eq_some_iff.mpr ⟨hi, hhere⟩, congrArg some hid'.symm, ?_⟩
        intro j hj b hb
        obtain ⟨_, rfl⟩ := List.getElem?_eq_some_iff.mp hb
        have hne := hleast j hj
        rw [hid']
        simpa using hne
      · rintro ⟨i, h⟩
        obtain ⟨hi, hhere⟩ := List.getElem?_eq_some_iff.mp h.here
        have hid : id = a.id := Option.some.inj h.id_eq
        refine ⟨by simpa using hid.symm, i, hi, hhere, ?_⟩
        intro j hj
        have hne := h.least j hj _ (List.getElem?_eq_getElem (hj.trans hi))
        simpa [hid] using hne

theorem finds_find? (accounts : List Account) (id : Option String) :
    Finds accounts id (find? accounts id) := by
  cases h : find? accounts id with
  | some a =>
      obtain ⟨i, hfound⟩ := find?_eq_some_iff_foundAt.mp h
      exact .found hfound
  | none =>
      refine .absent ?_
      rintro a ha rfl
      rw [find?, Option.bind_some, List.find?_eq_none] at h
      exact h a ha (beq_self_eq_true a.id)

/-- The accounts with other balances, one for each place. -/
def rebalance (accounts : List Account) (balances : Nat → Value) : List Account :=
  accounts.mapIdx fun i a => { a with balance := balances i }

theorem getElem?_rebalance (accounts : List Account) (balances : Nat → Value) (i : Nat) :
    (rebalance accounts balances)[i]? =
      accounts[i]?.map fun a => { a with balance := balances i } :=
  List.getElem?_mapIdx

/-- New balances leave an id at its place. -/
theorem foundAt_rebalance_iff {balances : Nat → Value} {i : Nat} :
    FoundAt (rebalance accounts balances) id i a ↔
      ∃ b, FoundAt accounts id i b ∧ a = { b with balance := balances i } := by
  constructor
  · intro h
    have hhere := h.here
    rw [getElem?_rebalance, Option.map_eq_some_iff] at hhere
    obtain ⟨b, hb, rfl⟩ := hhere
    refine ⟨b, ⟨hb, h.id_eq, fun j hj c hc => ?_⟩, rfl⟩
    exact h.least j hj { c with balance := balances j } (by rw [getElem?_rebalance, hc]; rfl)
  · rintro ⟨b, h, rfl⟩
    refine ⟨by rw [getElem?_rebalance, h.here]; rfl, h.id_eq, fun j hj c hc => ?_⟩
    rw [getElem?_rebalance, Option.map_eq_some_iff] at hc
    obtain ⟨d, hd, rfl⟩ := hc
    exact h.least j hj d hd

/-- An id finds the same account when that account keeps its balance. -/
theorem find?_rebalance {balances : Nat → Value}
    (h : ∀ i b, FoundAt accounts id i b → balances i = b.balance) :
    find? (rebalance accounts balances) id = find? accounts id := by
  apply Option.ext
  intro a
  rw [find?_eq_some_iff_foundAt, find?_eq_some_iff_foundAt]
  refine exists_congr fun i => foundAt_rebalance_iff.trans ?_
  constructor
  · rintro ⟨b, hb, rfl⟩
    rwa [h i b hb]
  · intro ha
    exact ⟨a, ha, by rw [h i a ha]⟩

end Account

/-! ## Snapshots of unchecked accounts -/

namespace Snapshot

/-- The violations of a snapshot whose balance is unfit, which stands in it twice. -/
def unfit (problem : Problem) : List Violation :=
  ["balance", "balance_before"].flatMap fun field =>
    [⟨[.member field, .member "int"], .notInteger⟩, ⟨[.member field, .member "float"], problem⟩]

/-- A balance that no snapshot can hold, and the violations that say so. -/
inductive RefusedAs : Value → List Violation → Prop
  | notNumber {v : Value} (h : ∀ n, v ≠ .number n) : RefusedAs v (unfit .notNumber)
  | notFinite {x : Binary64} (h : x = .nan ∨ ∃ negative, x = .infinite negative) :
      RefusedAs (.number (.double x)) (unfit .notFinite)

theorem RefusedAs.not_isBalance {v : Value} {violations : List Violation}
    (h : RefusedAs v violations) : ¬ IsBalance v := by
  rintro ⟨n, rfl, hn⟩
  cases h with
  | notNumber h => exact h n rfl
  | notFinite h =>
      rcases h with rfl | ⟨_, rfl⟩
      · cases hn
      · cases hn

theorem exists_refusedAs {v : Value} (h : ¬ IsBalance v) :
    ∃ violations, RefusedAs v violations := by
  rcases Checked.not_isBalance_cases h with ⟨x, rfl, _, hx⟩ | hnumber
  · exact ⟨_, .notFinite hx⟩
  · exact ⟨_, .notNumber hnumber⟩

/-- The snapshot shows the account as it is: the balance, now and before, and the currency in
capitals, which is empty for an account without one. -/
structure Copies (s : Snapshot) (a : Account) : Prop where
  id : s.id = a.id
  balance : a.balance = .number s.balance
  isBalance : IsBalance a.balance
  balanceBefore : s.balanceBefore = s.balance
  currency : ∀ text, a.currency = some text → s.currency = Text.upper text
  noCurrency : a.currency = none → s.currency = ""

variable {a : Account} {s : Snapshot} {violations : List Violation}

theorem eq_currencyCode_iff {code : String} : code = a.currencyCode ↔
    (∀ text, a.currency = some text → code = Text.upper text) ∧ (a.currency = none → code = "") := by
  rw [Account.currencyCode]
  cases a.currency with
  | none =>
      have hempty : Currency.normalise none = "" := by decide
      simp [hempty]
  | some text => simp [Currency.normalise]

/-- The one snapshot that copies an account with a balance. -/
theorem copies_iff {n : Number} (hn : a.balance = .number n) (hfinite : n.isFinite = true) :
    s.Copies a ↔ s = ⟨a.id, n, n, a.currencyCode⟩ := by
  constructor
  · intro h
    have hbalance : s.balance = n := Value.number.inj (h.balance.symm.trans hn)
    have hbefore : s.balanceBefore = n := h.balanceBefore.trans hbalance
    have hcurrency := eq_currencyCode_iff.mpr ⟨h.currency, h.noCurrency⟩
    rw [← h.id, ← hcurrency]
    cases s
    cases hbalance
    cases hbefore
    rfl
  · rintro rfl
    obtain ⟨hcurrency, hnone⟩ := eq_currencyCode_iff.mp (rfl : a.currencyCode = _)
    exact ⟨rfl, hn, ⟨n, hn, hfinite⟩, rfl, hcurrency, hnone⟩

theorem ofAccount_of_refusedAs (h : RefusedAs a.balance violations) :
    ofAccount a = .error violations := by
  obtain ⟨id, balance, currency⟩ := a
  cases h with
  | notNumber h =>
      cases balance with
      | number n => exact absurd rfl (h n)
      | _ => rfl
  | notFinite h =>
      rcases h with rfl | ⟨_, rfl⟩
      · rfl
      · rfl

theorem ofAccount_eq_ok_iff : ofAccount a = .ok s ↔ s.Copies a := by
  by_cases hbalance : IsBalance a.balance
  · obtain ⟨n, hn, hfinite⟩ := hbalance
    rw [ofAccount_of_finite hn hfinite, copies_iff hn hfinite, Except.ok.injEq, eq_comm]
  · refine iff_of_false ?_ fun h => hbalance h.isBalance
    obtain ⟨violations, h⟩ := exists_refusedAs hbalance
    rw [ofAccount_of_refusedAs h]
    rintro ⟨⟩

theorem ofAccount_eq_error_iff : ofAccount a = .error violations ↔
    RefusedAs a.balance violations := by
  refine ⟨fun h => ?_, ofAccount_of_refusedAs⟩
  by_cases hbalance : IsBalance a.balance
  · obtain ⟨n, hn, hfinite⟩ := hbalance
    rw [ofAccount_of_finite hn hfinite] at h
    cases h
  · obtain ⟨violations', hrefused⟩ := exists_refusedAs hbalance
    rw [ofAccount_of_refusedAs hrefused] at h
    cases h
    exact hrefused

end Snapshot

/-! ## Selections -/

namespace Selection

open Snapshot

variable {accounts : List Account} {debitId creditId : Option String}
  {violations : List Violation}

theorem mapM_ofAccount_eq_ok_iff {o : Option Account} {s : Option Snapshot} :
    o.mapM ofAccount = .ok s ↔ List.Forall₂ Copies s.toList o.toList := by
  cases o with
  | none => cases s <;> simp [pure, Except.pure]
  | some a =>
      rw [Option.mapM_some]
      show (ofAccount a).map some = .ok s ↔ _
      rw [map_eq_ok_iff]
      cases s <;> simp [ofAccount_eq_ok_iff]

theorem mapM_ofAccount_eq_error_iff {o : Option Account} :
    o.mapM ofAccount = .error violations ↔ ∃ a, o = some a ∧ RefusedAs a.balance violations := by
  cases o with
  | none => simp [pure, Except.pure]
  | some a =>
      rw [Option.mapM_some]
      simp only [Option.some.injEq, exists_eq_left', ← ofAccount_eq_error_iff]
      cases ofAccount a <;> simp [Functor.map, Except.map]

theorem exists_mapM_ofAccount_iff {o : Option Account} :
    (∃ s, o.mapM ofAccount = .ok s) ↔ ∀ a, o = some a → IsBalance a.balance := by
  constructor
  · rintro ⟨s, hs⟩ a rfl
    rw [mapM_ofAccount_eq_ok_iff] at hs
    obtain ⟨t, _, ht, _, _⟩ := List.forall₂_cons_right_iff.mp hs
    exact ht.isBalance
  · intro h
    cases hs : o.mapM ofAccount with
    | ok s => exact ⟨s, rfl⟩
    | error violations =>
        obtain ⟨a, ha, hrefused⟩ := mapM_ofAccount_eq_error_iff.mp hs
        exact absurd (h a ha) hrefused.not_isBalance

theorem exists_toList_eq {snapshots : List Snapshot} {o : Option Account}
    (h : List.Forall₂ Copies snapshots o.toList) : ∃ s : Option Snapshot, s.toList = snapshots := by
  cases o with
  | none =>
      rw [Option.toList_none, List.forall₂_nil_right_iff] at h
      exact ⟨none, h.symm⟩
  | some a =>
      obtain ⟨s, _, _, hrest, rfl⟩ := List.forall₂_cons_right_iff.mp h
      rw [List.forall₂_nil_right_iff.mp hrest]
      exact ⟨some s, rfl⟩

/-- The account that is paid, unless it is the one that pays. -/
def payee (debitId : Option String) (credit : Option Account) : Option Account :=
  credit.filter fun a => some a.id != debitId

theorem payee_eq_some_iff {credit : Option Account} {a : Account} :
    payee debitId credit = some a ↔ credit = some a ∧ debitId ≠ some a.id := by
  rw [payee, Option.filter_eq_some_iff, bne_iff_ne]
  exact and_congr_right' ne_comm

/-- A selection makes a snapshot of the account that pays before one of the account that is
paid. -/
theorem ofIds_eq_bind : ofIds accounts debitId creditId =
    (Account.find? accounts debitId).mapM ofAccount >>= fun s =>
      (payee debitId (Account.find? accounts creditId)).mapM ofAccount >>= fun t =>
        pure ⟨Account.find? accounts debitId, Account.find? accounts creditId,
          s.toList ++ t.toList⟩ :=
  rfl

/-- A selection is refused for the balance of the account that pays, or else for that of the
account that is paid if it is another one. -/
theorem ofIds_eq_error_iff : ofIds accounts debitId creditId = .error violations ↔
    (∃ a, Account.find? accounts debitId = some a ∧ RefusedAs a.balance violations) ∨
      ∃ a, Account.find? accounts creditId = some a ∧ debitId ≠ some a.id ∧
        RefusedAs a.balance violations ∧
          ∀ b, Account.find? accounts debitId = some b → IsBalance b.balance := by
  rw [ofIds_eq_bind, bind_eq_error_iff, mapM_ofAccount_eq_error_iff, ← exists_mapM_ofAccount_iff]
  refine or_congr_right ?_
  simp only [bind_eq_error_iff, mapM_ofAccount_eq_error_iff, payee_eq_some_iff]
  constructor
  · rintro ⟨s, hs, ⟨a, ⟨ha, hne⟩, hrefused⟩ | ⟨_, _, ⟨⟩⟩⟩
    exact ⟨a, ha, hne, hrefused, s, hs⟩
  · rintro ⟨a, ha, hne, hrefused, s, hs⟩
    exact ⟨s, hs, Or.inl ⟨a, ⟨ha, hne⟩, hrefused⟩⟩

/-- A selection holds what its ids find, and copies of both accounts, each once and the one
that pays first. -/
theorem ofIds_eq_ok_iff {selection : Selection} : ofIds accounts debitId creditId = .ok selection ↔
    selection.debit = Account.find? accounts debitId ∧
      selection.credit = Account.find? accounts creditId ∧
        List.Forall₂ Copies selection.snapshots
          ((Account.find? accounts debitId).toList ++
            (payee debitId (Account.find? accounts creditId)).toList) := by
  simp only [ofIds_eq_bind, bind_eq_ok_iff, mapM_ofAccount_eq_ok_iff]
  constructor
  · rintro ⟨s, hs, t, ht, ⟨⟩⟩
    exact ⟨rfl, rfl, List.rel_append hs ht⟩
  · obtain ⟨debit, credit, snapshots⟩ := selection
    rintro ⟨rfl, rfl, hcopies⟩
    -- the snapshots are those of the account that pays, then those of the one that is paid
    have hdebit := List.forall₂_take_append _ _ _ hcopies
    have hcredit := List.forall₂_drop_append _ _ _ hcopies
    obtain ⟨s, hs⟩ := exists_toList_eq hdebit
    obtain ⟨t, ht⟩ := exists_toList_eq hcredit
    rw [← hs] at hdebit
    rw [← ht] at hcredit
    refine ⟨s, hdebit, t, hcredit, ?_⟩
    rw [hs, ht, List.take_append_drop]
    rfl

/-- A selection does not depend on the balances of accounts that neither id finds. -/
theorem ofIds_rebalance {balances : Nat → Value}
    (h : ∀ i a, Account.FoundAt accounts debitId i a ∨ Account.FoundAt accounts creditId i a →
      balances i = a.balance) :
    ofIds (Account.rebalance accounts balances) debitId creditId =
      ofIds accounts debitId creditId := by
  unfold ofIds
  rw [Account.find?_rebalance fun i a ha => h i a (Or.inl ha),
    Account.find?_rebalance fun i a ha => h i a (Or.inr ha)]

end Selection

/-- A selection finds for either id the account of least index that has it. It is refused
exactly when the account that pays, or the account that is paid if its id is another one, holds
no integer and no finite number, with the violations of the one that pays if both do.
Otherwise it reports these accounts as they are, the one that pays first. The balance of no
other account matters. -/
theorem selectAccounts_decides (accounts : List Account) (debitId creditId : Option String) :
    ∃ debit credit, Account.Finds accounts debitId debit ∧
      Account.Finds accounts creditId credit ∧
      (∀ failure, selectAccounts accounts debitId creditId = .error failure ↔
        ∃ violations, failure = .snapshot violations ∧
          ((∃ a, debit = some a ∧ Snapshot.RefusedAs a.balance violations) ∨
            ∃ a, credit = some a ∧ debitId ≠ some a.id ∧
              Snapshot.RefusedAs a.balance violations ∧
                ∀ b, debit = some b → IsBalance b.balance)) ∧
      (∀ selection, selectAccounts accounts debitId creditId = .ok selection ↔
        selection.debit = debit ∧ selection.credit = credit ∧
          List.Forall₂ Snapshot.Copies selection.snapshots
            (debit.toList ++ (Selection.payee debitId credit).toList)) ∧
      ∀ balances, (∀ i a, Account.FoundAt accounts debitId i a ∨
          Account.FoundAt accounts creditId i a → balances i = a.balance) →
        selectAccounts (Account.rebalance accounts balances) debitId creditId =
          selectAccounts accounts debitId creditId := by
  refine ⟨_, _, Account.finds_find? accounts debitId, Account.finds_find? accounts creditId,
    fun failure => ?_, fun selection => ?_, fun balances h => ?_⟩
  · simp only [← Selection.ofIds_eq_error_iff]
    rw [selectAccounts]
    cases Selection.ofIds accounts debitId creditId <;> simp [Except.mapError, eq_comm]
  · rw [← Selection.ofIds_eq_ok_iff, selectAccounts]
    cases Selection.ofIds accounts debitId creditId <;> simp [Except.mapError]
  · rw [selectAccounts, Selection.ofIds_rebalance h, selectAccounts]

/-- Two accounts with one id, of which the second holds no finite number, and two accounts
that hold no number. -/
def uncheckedAccounts : List Account :=
  [⟨"A1", .number (.whole 500), none⟩, ⟨"A1", .number (.double .nan), some "usd"⟩,
    ⟨"A2", .bool true, some "ngn"⟩, ⟨"A3", .text "7", some "ngn"⟩]

/-- The same balances in the first and in the last place. -/
def otherBalances : Nat → Value
  | 0 => .number (.whole 500)
  | 3 => .text "7"
  | _ => .null

theorem otherBalances_eq (i : Nat) (a : Account)
    (h : Account.FoundAt uncheckedAccounts (some "A1") i a ∨
      Account.FoundAt uncheckedAccounts (some "A3") i a) : otherBalances i = a.balance := by
  have hhere : uncheckedAccounts[i]? = some a := h.elim (·.here) (·.here)
  match i with
  | 0 | 3 =>
      cases hhere
      rfl
  | 1 =>
      cases hhere
      rcases h with h | h
      · have hfirst : uncheckedAccounts[0]? = some ⟨"A1", .number (.whole 500), none⟩ := rfl
        exact (h.least 0 Nat.one_pos _ hfirst rfl).elim
      · exact absurd h.id_eq (by decide)
  | 2 =>
      cases hhere
      rcases h with h | h
      · exact absurd h.id_eq (by decide)
      · exact absurd h.id_eq (by decide)
  | _ + 4 => cases hhere

theorem selectAccounts_decides_uncheckedAccounts :
    (∀ i a, Account.FoundAt uncheckedAccounts (some "A1") i a ∨
        Account.FoundAt uncheckedAccounts (some "A3") i a → otherBalances i = a.balance) ∧
    selectAccounts uncheckedAccounts (some "A1") (some "A3") =
      .error (.snapshot (Snapshot.unfit .notNumber)) ∧
    selectAccounts (Account.rebalance uncheckedAccounts otherBalances) (some "A1") (some "A3") =
      selectAccounts uncheckedAccounts (some "A1") (some "A3") := by
  obtain ⟨_, _, _, _, _, _, hbalances⟩ :=
    selectAccounts_decides uncheckedAccounts (some "A1") (some "A3")
  exact ⟨otherBalances_eq, rfl, hbalances _ otherBalances_eq⟩

end Remittance
