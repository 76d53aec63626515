import Remittance.Proofs.Decision
import Remittance.Proofs.Posting

/-!
# Recording a verdict

A property that accounts keep when they get a reported balance holds after a record
(`forall_mem_record`), and only a success moves money (`record_of_code_ne`). No verdict
runs an account deeper into debt, so a list whose debts can be written stays one
(`shortDebt_record`).
-/

namespace Remittance

open Instruction

namespace Ledger

theorem forall_mem_setBalance {P : Account → Prop} {id : String} {balance : Value}
    (hset : ∀ a, P a → P { a with balance }) {accounts : List Account}
    (h : ∀ a ∈ accounts, P a) : ∀ a ∈ setBalance accounts id balance, P a := by
  induction accounts with
  | nil => exact h
  | cons a rest ih =>
      obtain ⟨ha, hrest⟩ := List.forall_mem_cons.mp h
      rw [setBalance]
      split
      · exact List.forall_mem_cons.mpr ⟨hset a ha, hrest⟩
      · exact List.forall_mem_cons.mpr ⟨ha, ih hrest⟩

theorem record_cons (accounts : List Account) (s : Snapshot) (rest : List Snapshot) :
    record accounts (s :: rest) = record (setBalance accounts s.id (.number s.balance)) rest :=
  rfl

/-- A property that accounts keep when they get a reported balance holds after a record. -/
theorem forall_mem_record {P : Account → Prop} {snapshots : List Snapshot}
    (hset : ∀ s ∈ snapshots, ∀ a, P a → P { a with balance := .number s.balance })
    {accounts : List Account} (h : ∀ a ∈ accounts, P a) :
    ∀ a ∈ record accounts snapshots, P a := by
  induction snapshots generalizing accounts with
  | nil => exact h
  | cons s rest ih =>
      obtain ⟨hs, hrest⟩ := List.forall_mem_cons.mp hset
      rw [record_cons]
      exact ih hrest (forall_mem_setBalance hs h)

theorem isFirst_setBalance {accounts : List Account} {id : String} {a : Account}
    (h : IsFirst accounts id a) (balance : Value) :
    IsFirst (setBalance accounts id balance) id { a with balance } := by
  induction h with
  | here hid =>
      rw [setBalance, if_pos hid]
      exact .here hid
  | there hb _ ih =>
      rw [setBalance, if_neg hb]
      exact .there hb ih

theorem isFirst_setBalance_of_ne {accounts : List Account} {id other : String} {a : Account}
    (h : IsFirst accounts id a) (hne : id ≠ other) (balance : Value) :
    IsFirst (setBalance accounts other balance) id a := by
  induction h with
  | here hid =>
      rw [setBalance, if_neg (by rwa [hid])]
      exact .here hid
  | @there a b rest id hb hrest ih =>
      rw [setBalance]
      split
      · exact .there hb hrest
      · exact .there hb (ih hne)

theorem isFirst_of_mem_reported {accounts : List Account} {debitId creditId : Option String}
    {a : Account} (h : a ∈ Selection.reported accounts debitId creditId) :
    IsFirst accounts a.id a := by
  have hfound : ∀ id, Account.find? accounts id = some a → IsFirst accounts a.id a := by
    intro id hid
    cases id with
    | none => cases hid
    | some id =>
        have hfirst := find?_eq_some_iff_isFirst.mp hid
        rwa [hfirst.id_eq]
  rcases List.mem_append.mp h with h | h
  · exact hfound _ (Option.mem_toList.mp h)
  · exact hfound _ (Option.filter_eq_some_iff.mp (Option.mem_toList.mp h)).1

theorem record_reports {accounts reported : List Account} {snapshots : List Snapshot}
    (h : List.Forall₂ Snapshot.Reports snapshots reported)
    (hfirst : ∀ a ∈ reported, IsFirst accounts a.id a) : record accounts snapshots = accounts := by
  induction h with
  | nil => rfl
  | cons hs _ ih =>
      obtain ⟨ha, hrest⟩ := List.forall_mem_cons.mp hfirst
      rw [record_cons, hs.id, ← hs.balance, setBalance_self ha, ih hrest]

/-- Only a success moves money. -/
theorem record_of_code_ne {accounts : List Account} {text : String} {today : Date}
    {outcome : Outcome} (h : Decided accounts text today outcome)
    (hcode : (Verdict.ofOutcome outcome).code ≠ .success) :
    record accounts (Verdict.ofOutcome outcome).accounts = accounts := by
  cases h with
  | unrecognised _ => rfl
  | unreadable _ _ hreports => exact record_reports hreports fun _ => isFirst_of_mem_reported
  | refused _ _ _ hreports => exact record_reports hreports fun _ => isFirst_of_mem_reported
  | waiting _ hpay _ _ hdebit hcredit =>
      refine record_reports (.cons hdebit (.cons hcredit .nil)) ?_
      simp only [List.forall_mem_cons, List.not_mem_nil, false_imp_iff, implies_true, and_true]
      rw [hpay.payer.id_eq, hpay.payee.id_eq]
      exact ⟨hpay.payer, hpay.payee⟩
  | moved _ _ _ _ _ _ _ => exact absurd rfl hcode

end Ledger

/-! ## Debts -/

theorem Numeral.isShort_of_natAbs_le {m n : Int} (h : m.natAbs ≤ n.natAbs)
    (hn : isShort n = true) : isShort m = true := by
  have hpos : 0 < maxDigits := by decide
  rw [isShort_iff, Nat.length_toDigits_le_iff (by decide) hpos] at hn ⊢
  exact lt_of_le_of_lt h hn

/-- What covers an amount is not run into debt by paying it. -/
theorem Number.nonneg_of_minus? {m : Int} {x y : Number} (hcovers : (Value.number x).Covers m)
    (h : x.minus? m = some y) : ∀ n : Int, y = .whole n → 0 ≤ n := by
  rintro n rfl
  cases x with
  | whole k =>
      cases h
      obtain ⟨_, _, ⟨⟩, ⟨⟩, hle⟩ := hcovers
      have hle' : m ≤ k := by exact_mod_cast hle
      omega
  | double z =>
      rw [minus?, Option.map_eq_some_iff] at h
      obtain ⟨_, _, ⟨⟩⟩ := h

/-- What is paid to a debt leaves a smaller debt. -/
theorem Number.shortDebt_of_plus? {m : Nat} {x y : Number}
    (hx : ∀ n : Int, x = .whole n → n < 0 → Numeral.isShort n = true)
    (h : x.plus? m = some y) :
    ∀ n : Int, y = .whole n → n < 0 → Numeral.isShort n = true := by
  rintro n rfl hneg
  cases x with
  | whole k =>
      cases h
      exact Numeral.isShort_of_natAbs_le (by omega) (hx k rfl (by omega))
  | double z =>
      rw [plus?, Option.map_eq_some_iff] at h
      obtain ⟨_, _, ⟨⟩⟩ := h

theorem Account.ShortDebt.setBalance {a : Account} {x : Number}
    (h : ∀ n : Int, x = .whole n → n < 0 → Numeral.isShort n = true) :
    ShortDebt { a with balance := .number x } := by
  intro n hn hneg
  exact h n (Value.number.inj hn) hneg

/-- Recording a verdict about accounts whose debts can be written leaves such accounts. -/
theorem Ledger.shortDebt_record {accounts : List Account} {text : String} {today : Date}
    {outcome : Outcome} (hdebts : ∀ a ∈ accounts, a.ShortDebt)
    (h : Decided accounts text today outcome) :
    ∀ a ∈ record accounts (Verdict.ofOutcome outcome).accounts, a.ShortDebt := by
  by_cases hcode : (Verdict.ofOutcome outcome).code = .success
  · obtain ⟨i, debit, credit, s, t, x, y, rfl, hpay, hs, ht, hx, hy⟩ := h.moved_of_success hcode
    have hcovers := hpay.funds
    rw [hs.balance, ← hs.balanceBefore] at hcovers
    have hpayer := Number.nonneg_of_minus? hcovers hx
    have hpayee := Number.shortDebt_of_plus? (fun n hn hneg => hdebts credit hpay.payee.mem n
      (by rw [ht.balance, ← ht.balanceBefore, hn]) hneg) hy
    refine forall_mem_record ?_ hdebts
    simp only [Verdict.ofOutcome, Verdict.ofInstruction, List.forall_mem_cons]
    exact ⟨fun _ _ => Account.ShortDebt.setBalance
        fun n hn hneg => absurd (hpayer n hn) (not_le.mpr hneg),
      fun _ _ => Account.ShortDebt.setBalance hpayee, List.forall_mem_nil _⟩
  · rwa [record_of_code_ne h hcode]

end Remittance
