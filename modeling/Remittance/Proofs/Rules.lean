import Remittance.Process
import Remittance.Proofs.ExactValue
import Remittance.Proofs.Grammar
import Remittance.Proofs.Selection

/-!
# The rules of a payment

`Payable` says when a payment keeps the rules, and the table `obstacles` what stands
in its way, in the order in which it counts; the rules follow the table
(`Rule.check_follows`). A refusal has a reason in words unless the account that pays has a
debt too long to be written (`Rule.message?_eq_none_iff_unprintable`).
-/

namespace Remittance

open Instruction Table

def supportedCodes : List String := ["NGN", "USD", "GBP", "GHS"]

/-- The payment keeps every rule between these two accounts. -/
structure Payable (accounts : List Account) (i : Instruction) (debit credit : Account) : Prop where
  payer : IsFirst accounts i.debitAccount debit
  payee : IsFirst accounts i.creditAccount credit
  oneCurrency : debit.currencyCode = credit.currencyCode
  supported : debit.currencyCode ∈ supportedCodes
  currency : debit.currencyCode = i.currency.code
  distinct : i.debitAccount ≠ i.creditAccount
  funds : debit.balance.Covers i.amount

/-- The two ids have accounts that share the currency, one of settlement. -/
structure Compatible (accounts : List Account) (payer payee code : String)
    (debit credit : Account) : Prop where
  payer : IsFirst accounts payer debit
  payee : IsFirst accounts payee credit
  oneCurrency : debit.currencyCode = credit.currencyCode
  supported : debit.currencyCode ∈ supportedCodes
  currency : debit.currencyCode = code

theorem payable_iff {accounts : List Account} {i : Instruction} {debit credit : Account} :
    Payable accounts i debit credit ↔
      Compatible accounts i.debitAccount i.creditAccount i.currency.code debit credit ∧
        i.debitAccount ≠ i.creditAccount ∧ debit.balance.Covers i.amount := by
  constructor
  · intro h
    exact ⟨⟨h.payer, h.payee, h.oneCurrency, h.supported, h.currency⟩, h.distinct, h.funds⟩
  · rintro ⟨h, hdistinct, hfunds⟩
    exact ⟨h.payer, h.payee, h.oneCurrency, h.supported, h.currency, hdistinct, hfunds⟩

theorem Compatible.symm {accounts : List Account} {payer payee code : String}
    {debit credit : Account} (h : Compatible accounts payer payee code debit credit) :
    Compatible accounts payee payer code credit debit where
  payer := h.payee
  payee := h.payer
  oneCurrency := h.oneCurrency.symm
  supported := h.oneCurrency ▸ h.supported
  currency := h.oneCurrency ▸ h.currency

/-- Everything that can stand in the way of a payment. -/
def obstacles (accounts : List Account) (i : Instruction) : Table Code :=
  [ (¬ ((∃ a, IsFirst accounts i.debitAccount a) ∧ ∃ a, IsFirst accounts i.creditAccount a),
      .accountNotFound),
    (∃ debit credit, IsFirst accounts i.debitAccount debit ∧
        IsFirst accounts i.creditAccount credit ∧ debit.currencyCode ≠ credit.currencyCode,
      .currencyMismatch),
    (∃ debit, IsFirst accounts i.debitAccount debit ∧ debit.currencyCode ∉ supportedCodes,
      .unsupportedCurrency),
    (∃ debit, IsFirst accounts i.debitAccount debit ∧ debit.currencyCode ≠ i.currency.code,
      .currencyMismatch),
    (i.debitAccount = i.creditAccount, .sameAccount),
    (∃ debit, IsFirst accounts i.debitAccount debit ∧ ¬ debit.balance.Covers i.amount,
      .insufficientFunds) ]

section

variable {accounts : List Account} {i : Instruction} {debit credit : Account}

/-- Two accounts are compatible exactly when nothing stands in the way before their ids are
compared. -/
theorem exists_compatible_iff_clear :
    (∃ debit credit,
      Compatible accounts i.debitAccount i.creditAccount i.currency.code debit credit) ↔
      Clear ((obstacles accounts i).take 4) := by
  simp only [obstacles, List.take_succ_cons, List.take_zero, Clear, List.forall_mem_cons]
  constructor
  · rintro ⟨debit, credit, h⟩
    refine ⟨not_not_intro ⟨⟨debit, h.payer⟩, credit, h.payee⟩, ?_, ?_, ?_, List.forall_mem_nil _⟩
    · rintro ⟨a, b, ha, hb, hne⟩
      rw [ha.unique h.payer, hb.unique h.payee] at hne
      exact hne h.oneCurrency
    · rintro ⟨a, ha, hne⟩
      rw [ha.unique h.payer] at hne
      exact hne h.supported
    · rintro ⟨a, ha, hne⟩
      rw [ha.unique h.payer] at hne
      exact hne h.currency
  · rintro ⟨hfound, hone, hsupported, hcurrency, _⟩
    obtain ⟨⟨debit, hdebit⟩, credit, hcredit⟩ := not_not.mp hfound
    refine ⟨debit, credit, hdebit, hcredit, ?_, ?_, ?_⟩
    · by_contra hne
      exact hone ⟨debit, credit, hdebit, hcredit, hne⟩
    · by_contra hne
      exact hsupported ⟨debit, hdebit, hne⟩
    · by_contra hne
      exact hcurrency ⟨debit, hdebit, hne⟩

theorem Compatible.clear
    (h : Compatible accounts i.debitAccount i.creditAccount i.currency.code debit credit) :
    Clear ((obstacles accounts i).take 4) :=
  exists_compatible_iff_clear.mp ⟨debit, credit, h⟩

/-- The rule against one account on both sides refuses when the ids are the same and the
rules before it pass. -/
theorem selects_sameAccount_iff :
    (obstacles accounts i).Selects .sameAccount ↔
      i.debitAccount = i.creditAccount ∧ ∃ debit credit,
        Compatible accounts i.debitAccount i.creditAccount i.currency.code debit credit := by
  constructor
  · intro h
    -- the rows before the one that is selected do not hold
    obtain ⟨hclear, hrest⟩ := selects_drop (n := 4) (by simp [obstacles]) h
    simp only [obstacles, List.drop_succ_cons, List.drop_zero] at hrest
    obtain hsame | ⟨_, _ | ⟨_, ⟨⟩⟩⟩ := hrest
    exact ⟨hsame, exists_compatible_iff_clear.mpr hclear⟩
  · rintro ⟨hsame, debit, credit, h⟩
    exact selects_append_right h.clear (.first hsame)

/-- The rule on funds refuses when the rules before it pass and the account that pays does
not cover the amount. -/
theorem selects_insufficientFunds_iff :
    (obstacles accounts i).Selects .insufficientFunds ↔ ∃ debit credit,
      Compatible accounts i.debitAccount i.creditAccount i.currency.code debit credit ∧
        i.debitAccount ≠ i.creditAccount ∧ ¬ debit.balance.Covers i.amount := by
  constructor
  · intro h
    obtain ⟨hclear, hrest⟩ := selects_drop (n := 4) (by simp [obstacles]) h
    simp only [obstacles, List.drop_succ_cons, List.drop_zero] at hrest
    obtain ⟨debit, credit, hcompatible⟩ := exists_compatible_iff_clear.mpr hclear
    obtain _ | ⟨hdistinct, ⟨a, ha, hcovers⟩ | ⟨_, ⟨⟩⟩⟩ := hrest
    rw [ha.unique hcompatible.payer] at hcovers
    exact ⟨debit, credit, hcompatible, hdistinct, hcovers⟩
  · rintro ⟨debit, credit, h, hdistinct, hcovers⟩
    exact selects_append_right h.clear (.later hdistinct (.first ⟨debit, h.payer, hcovers⟩))

theorem Payable.clear_obstacles (h : Payable accounts i debit credit) :
    (obstacles accounts i).Clear := by
  obtain ⟨hcompatible, hdistinct, hfunds⟩ := payable_iff.mp h
  refine clear_append (t := (obstacles accounts i).drop 4) hcompatible.clear ?_
  simp only [obstacles, List.drop_succ_cons, List.drop_zero, Clear, List.forall_mem_cons]
  refine ⟨hdistinct, ?_, List.forall_mem_nil _⟩
  rintro ⟨a, ha, hne⟩
  rw [ha.unique h.payer] at hne
  exact hne hfunds

theorem exists_payable_of_clear (h : (obstacles accounts i).Clear) :
    ∃ debit credit, Payable accounts i debit credit := by
  obtain ⟨debit, credit, hcompatible⟩ :=
    exists_compatible_iff_clear.mpr fun row hrow => h row (List.mem_of_mem_take hrow)
  simp only [obstacles, Clear, List.forall_mem_cons] at h
  obtain ⟨_, _, _, _, hdistinct, hfunds, _⟩ := h
  refine ⟨debit, credit, payable_iff.mpr ⟨hcompatible, hdistinct, ?_⟩⟩
  by_contra hne
  exact hfunds ⟨debit, hcompatible.payer, hne⟩

end

/-! ## The rules -/

namespace Rule

variable {accounts : List Account} {i : Instruction} {debit credit : Account}

def Tells (refusal : Refusal) (code : Code) : Prop :=
  refusal.code = code

theorem exists_first_iff {id : String} (P : Account → Prop)
    (h : IsFirst accounts id debit) : (∃ a, IsFirst accounts id a ∧ P a) ↔ P debit := by
  constructor
  · rintro ⟨a, ha, hP⟩
    rwa [ha.unique h] at hP
  · intro hP
    exact ⟨debit, h, hP⟩

theorem bothFound_eq_ok_iff {debitId creditId : String} {pair : Account × Account} :
    bothFound (Account.find? accounts (some debitId)) (Account.find? accounts (some creditId))
        debitId creditId = .ok pair ↔
      IsFirst accounts debitId pair.1 ∧ IsFirst accounts creditId pair.2 := by
  rw [← find?_eq_some_iff_isFirst, ← find?_eq_some_iff_isFirst]
  cases Account.find? accounts (some debitId) <;>
    cases Account.find? accounts (some creditId) <;> simp [bothFound, Prod.ext_iff]

theorem bothFound_follows (accounts : List Account) (i : Instruction) :
    Follows Tells ((obstacles accounts i).take 1)
      (bothFound (Account.find? accounts (some i.debitAccount))
        (Account.find? accounts (some i.creditAccount)) i.debitAccount i.creditAccount) := by
  have hrow : (∃ pair : Account × Account, IsFirst accounts i.debitAccount pair.1 ∧
      IsFirst accounts i.creditAccount pair.2) ↔
      (∃ a, IsFirst accounts i.debitAccount a) ∧ ∃ a, IsFirst accounts i.creditAccount a := by
    constructor
    · rintro ⟨pair, hdebit, hcredit⟩
      exact ⟨⟨pair.1, hdebit⟩, pair.2, hcredit⟩
    · rintro ⟨⟨debit, hdebit⟩, credit, hcredit⟩
      exact ⟨(debit, credit), hdebit, hcredit⟩
  have herror : ∀ refusal, bothFound (Account.find? accounts (some i.debitAccount))
      (Account.find? accounts (some i.creditAccount)) i.debitAccount i.creditAccount =
        .error refusal → Tells refusal .accountNotFound := by
    intro refusal h
    unfold bothFound at h
    split at h <;> cases h <;> rfl
  have hfollows := follows_of_ok_iff (fun _ => bothFound_eq_ok_iff) herror
  rwa [hrow] at hfollows

theorem isNone_ofCode?_iff {code : String} :
    (Currency.ofCode? code).isNone ↔ code ∉ supportedCodes := by
  rw [Option.isNone_iff_eq_none, Option.eq_none_iff_forall_ne_some]
  constructor
  · intro h hmem
    simp only [supportedCodes, List.mem_cons, List.not_mem_nil, or_false] at hmem
    rcases hmem with rfl | rfl | rfl | rfl
    · exact h .ngn (Currency.ofCode?_code .ngn)
    · exact h .usd (Currency.ofCode?_code .usd)
    · exact h .gbp (Currency.ofCode?_code .gbp)
    · exact h .ghs (Currency.ofCode?_code .ghs)
  · intro h currency hcurrency
    rw [Currency.ofCode?_eq_some_iff] at hcurrency
    subst hcurrency
    cases currency <;> simp [supportedCodes, Currency.code] at h

theorem oneCurrency_follows (hdebit : IsFirst accounts i.debitAccount debit)
    (hcredit : IsFirst accounts i.creditAccount credit) :
    Follows Tells (((obstacles accounts i).drop 1).take 3)
      (oneCurrency debit credit i.currency.code) := by
  have hdiffer : debit.currencyCode ≠ credit.currencyCode ↔
      ∃ a b, IsFirst accounts i.debitAccount a ∧ IsFirst accounts i.creditAccount b ∧
        a.currencyCode ≠ b.currencyCode := by
    constructor
    · intro hne
      exact ⟨debit, credit, hdebit, hcredit, hne⟩
    · rintro ⟨a, b, ha, hb, hne⟩
      rwa [ha.unique hdebit, hb.unique hcredit] at hne
  refine follows_guard hdiffer rfl ?_
  have hsupported := exists_first_iff (fun a => a.currencyCode ∉ supportedCodes) hdebit
  have hcurrency := exists_first_iff (fun a => a.currencyCode ≠ i.currency.code) hdebit
  refine follows_guard (isNone_ofCode?_iff.trans hsupported.symm) rfl ?_
  refine follows_guard (ne_comm.trans hcurrency.symm) rfl ?_
  exact clear_nil

theorem enoughFunds_follows (hshaped : debit.Shaped)
    (hdebit : IsFirst accounts i.debitAccount debit) :
    Follows Tells ((obstacles accounts i).drop 5) (enoughFunds debit i.amount) := by
  obtain ⟨n, hbalance, hn⟩ := hshaped.balance
  have hshort : ¬ debit.balance.reaches i.amount = true ↔
      ¬ debit.balance.Covers i.amount := by
    rw [hbalance, Value.reaches_iff hn]
  have hfunds := exists_first_iff (fun a => ¬ a.balance.Covers i.amount) hdebit
  unfold enoughFunds
  rw [← ite_not]
  exact follows_guard (hshort.trans hfunds.symm) rfl clear_nil

/-- The rules follow the table of obstacles. -/
theorem check_follows (hshaped : ∀ a ∈ accounts, a.Shaped) :
    Follows Tells (obstacles accounts i)
      (check i (Account.find? accounts (some i.debitAccount))
        (Account.find? accounts (some i.creditAccount))) := by
  -- from here on both accounts are known, and the rows speak of these two
  refine follows_bind (bothFound_follows accounts i) fun pair hpair => ?_
  obtain ⟨hdebit, hcredit⟩ := bothFound_eq_ok_iff.mp hpair
  refine follows_bind (t := (obstacles accounts i).drop 4)
    (oneCurrency_follows hdebit hcredit) fun _ _ => ?_
  refine follows_bind (s := ((obstacles accounts i).drop 4).take 1)
    (follows_guard Iff.rfl rfl clear_nil) fun _ _ => ?_
  exact enoughFunds_follows (hshaped _ hdebit.mem) hdebit

end Rule

namespace Timing

theorem ofDate_eq_later_iff {date : Option Date} {today : Date} :
    ofDate (date.map Date.text) today = .later ↔ ∃ d, date = some d ∧ today < d := by
  unfold ofDate
  cases date with
  | none => simp
  | some d =>
      simp only [Option.map_some, Option.any_some, decide_eq_true_eq, Option.some.injEq,
        exists_eq_left']
      split
      · rename_i h
        exact iff_of_true rfl (Date.text_lt_text_iff.mp h)
      · rename_i h
        refine iff_of_false ?_ fun hlt => h (Date.text_lt_text_iff.mpr hlt)
        rintro ⟨⟩

theorem ofDate_eq_now_iff {date : Option Date} {today : Date} :
    ofDate (date.map Date.text) today = .now ↔ ∀ d, date = some d → ¬ today < d := by
  have hlater : ofDate (date.map Date.text) today = .later ↔ _ := ofDate_eq_later_iff
  cases h : ofDate (date.map Date.text) today with
  | now =>
      rw [h] at hlater
      refine ⟨fun _ d hd hlt => ?_, fun _ => rfl⟩
      cases hlater.mpr ⟨d, hd, hlt⟩
  | later =>
      obtain ⟨d, hd, hlt⟩ := hlater.mp h
      refine ⟨?_, fun hnow => absurd hlt (hnow d hd)⟩
      rintro ⟨⟩

end Timing

/-! ## Reasons in words -/

namespace Numeral

/-- What can be read as an amount can be written. -/
theorem isShort_of_le_largest {n : Int} (h : n.natAbs ≤ Binary64.largest) : isShort n = true := by
  have hlt : n.natAbs < 10 ^ 309 := lt_of_le_of_lt h (by decide +kernel)
  have hdigits := (Nat.length_toDigits_le_iff (by decide) (by decide)).mpr hlt
  exact isShort_iff.mpr (hdigits.trans (by decide))

end Numeral

theorem Refusal.message?_eq_none_iff {refusal : Refusal} :
    refusal.message? = none ↔ ∃ available required,
      refusal = .insufficientFunds available required ∧
        (available.isShort = false ∨ Numeral.isShort required = false) := by
  constructor
  · intro h
    cases refusal with
    | insufficientFunds available required =>
        refine ⟨available, required, rfl, ?_⟩
        by_contra hshort
        simp only [not_or, Bool.not_eq_false] at hshort
        simp [message?, Value.shown?, wholeText?, hshort] at h
    | _ => cases h
  · rintro ⟨available, required, rfl, h⟩
    rcases h with h | h <;> simp [message?, Value.shown?, wholeText?, h]

example : (Refusal.insufficientFunds (.number (.whole (-10 ^ 4300))) 1).message? = none := by
  decide +kernel
example : (Refusal.insufficientFunds (.number (.whole (1 - 10 ^ 4300))) 1).message?.isSome := by
  decide +kernel

/-- The payment is refused for a debt that is too long to be written: the accounts are
compatible and not the same, and the one that pays has a whole balance below zero with too
many digits. -/
def Unprintable (accounts : List Account) (i : Instruction) : Prop :=
  ∃ debit credit n,
    Compatible accounts i.debitAccount i.creditAccount i.currency.code debit credit ∧
      i.debitAccount ≠ i.creditAccount ∧ debit.balance = .number (.whole n) ∧ n < 0 ∧
      Numeral.isShort n = false

/-- A whole balance below zero can be written. -/
def Account.ShortDebt (a : Account) : Prop :=
  ∀ n : Int, a.balance = .number (.whole n) → n < 0 → Numeral.isShort n = true

section

variable {accounts : List Account} {i : Instruction}

theorem covers_whole_iff {v : Value} {m n : Int} (h : v = .number (.whole n)) :
    v.Covers m ↔ m ≤ n := by
  subst h
  constructor
  · rintro ⟨_, _, ⟨⟩, ⟨⟩, hle⟩
    exact_mod_cast hle
  · intro hle
    exact ⟨_, _, rfl, rfl, by exact_mod_cast hle⟩

theorem not_unprintable_of_clear (h : (obstacles accounts i).Clear) :
    ¬ Unprintable accounts i := by
  rintro ⟨debit, _, n, hcompatible, _, hbalance, hneg, _⟩
  obtain ⟨_, _, hpay⟩ := exists_payable_of_clear h
  have hfunds := hpay.funds
  rw [hpay.payer.unique hcompatible.payer, covers_whole_iff hbalance] at hfunds
  omega

theorem not_unprintable (h : ∀ a ∈ accounts, a.ShortDebt) : ¬ Unprintable accounts i := by
  rintro ⟨debit, _, n, hcompatible, _, hbalance, hneg, hlong⟩
  rw [h debit hcompatible.payer.mem n hbalance hneg] at hlong
  cases hlong

namespace Rule

/-- Want of money is told of the account that pays and of the amount. -/
theorem check_eq_insufficientFunds {debit credit : Option Account} {available : Value}
    {required : Int} (h : check i debit credit = .error (.insufficientFunds available required)) :
    ∃ a, debit = some a ∧ a.balance = available ∧ required = i.amount := by
  unfold check at h
  obtain hfound | ⟨⟨payer, payee⟩, hfound, hcurrency⟩ := bind_eq_error_iff.mp h
  · unfold bothFound at hfound
    split at hfound <;> cases hfound
  obtain hcurrency | ⟨_, _, hids⟩ := bind_eq_error_iff.mp hcurrency
  · unfold oneCurrency at hcurrency
    split_ifs at hcurrency <;> cases hcurrency
  obtain hids | ⟨_, _, hfunds⟩ := bind_eq_error_iff.mp hids
  · unfold distinct at hids
    split_ifs at hids
    cases hids
  have hpayer : debit = some payer := by
    unfold bothFound at hfound
    split at hfound <;> cases hfound
    rfl
  unfold enoughFunds at hfunds
  split_ifs at hfunds
  cases hfunds
  exact ⟨payer, hpayer, rfl, rfl⟩

/-- A refusal that the rules come to has no words exactly when the payment is unprintable. -/
theorem message?_eq_none_iff_unprintable (hshaped : ∀ a ∈ accounts, a.Shaped)
    (hamount : i.amount ≤ Binary64.largest) {refusal : Refusal}
    (h : check i (Account.find? accounts (some i.debitAccount))
      (Account.find? accounts (some i.creditAccount)) = .error refusal) :
    refusal.message? = none ↔ Unprintable accounts i := by
  have hfollows := check_follows (i := i) hshaped
  rw [h] at hfollows
  obtain ⟨code, hselects, rfl⟩ := hfollows
  constructor
  · intro hnone
    obtain ⟨available, required, rfl, hlong⟩ := Refusal.message?_eq_none_iff.mp hnone
    obtain ⟨debit, credit, hcompatible, hdistinct, hcovers⟩ :=
      selects_insufficientFunds_iff.mp hselects
    obtain ⟨a, hfind, rfl, rfl⟩ := check_eq_insufficientFunds h
    obtain rfl := (find?_eq_some_iff_isFirst.mp hfind).unique hcompatible.payer
    obtain ⟨x, hbalance, _⟩ := (hshaped a hcompatible.payer.mem).balance
    rw [Numeral.isShort_of_le_largest (by omega), hbalance] at hlong
    cases x with
    | double y => simp [Value.isShort, Number.isShort] at hlong
    | whole n =>
        have hlong : Numeral.isShort n = false := by
          simpa [Value.isShort, Number.isShort] using hlong
        refine ⟨a, credit, n, hcompatible, hdistinct, hbalance, ?_, hlong⟩
        -- what falls short of the amount and is not below zero is no longer than the amount
        rw [covers_whole_iff hbalance] at hcovers
        by_contra hpos
        rw [Numeral.isShort_of_le_largest (by omega)] at hlong
        cases hlong
  · rintro ⟨debit, credit, n, hcompatible, hdistinct, hbalance, hneg, hlong⟩
    have hcovers : ¬ debit.balance.Covers i.amount := by
      rw [covers_whole_iff hbalance]
      omega
    have hcode := selects_unique hselects
      (selects_insufficientFunds_iff.mpr ⟨debit, credit, hcompatible, hdistinct, hcovers⟩)
    cases refusal with
    | insufficientFunds available required =>
        obtain ⟨a, hfind, rfl, rfl⟩ := check_eq_insufficientFunds h
        rw [(find?_eq_some_iff_isFirst.mp hfind).unique hcompatible.payer, hbalance]
        refine Refusal.message?_eq_none_iff.mpr ⟨_, _, rfl, Or.inl ?_⟩
        rw [Value.isShort, Number.isShort, hlong]
    | _ => cases hcode

end Rule

end

end Remittance
