import Mathlib.Data.List.Forall2
import Remittance.Request

/-!
# What a shape check lets through

What a payload carries is said by relations that do not compute (`CarriesAccount`,
`Carries`). The check of a payload accepts exactly what carries a request, and yields that
request (`Request.ofValue_eq_ok_iff`), so the accounts of an accepted payload have finite
balances and a currency (`shaped_of_ofValue`). Conversely such accounts, and only they, pass
the check again when they are submitted (`accountsOf_accountsValue_eq_ok_iff`).
-/

namespace Remittance

open Shape

theorem map_eq_ok_iff {α β ε : Type} {x : Except ε α} {f : α → β} {b : β} :
    x.map f = .ok b ↔ ∃ a, x = .ok a ∧ f a = b := by
  cases x with
  | error e => simp [Except.map]
  | ok a => simp [Except.map]

namespace Checked

theorem under_eq_ok_iff {α : Type} {step : Step} {c : Checked α} {a : α} :
    c.under step = .ok a ↔ c = .ok a := by
  cases c <;> simp [under, Except.mapError]

theorem member_eq_ok_iff {α : Type} {name : String} {c : Option (Checked α)} {a : α} :
    member name c = .ok a ↔ c = some (.ok a) := by
  cases c with
  | none => simp [member]
  | some c => simp [member, under_eq_ok_iff]

theorem both_eq_ok_iff {α β : Type} {x : Checked α} {y : Checked β} {p : α × β} :
    x.both y = .ok p ↔ x = .ok p.1 ∧ y = .ok p.2 := by
  cases x <;> cases y <;> simp [both, Prod.ext_iff]

theorem all_eq_ok_iff {α : Type} {checks : List (Checked α)} {as : List α} :
    all checks = .ok as ↔ checks = as.map .ok := by
  induction checks generalizing as with
  | nil => cases as <;> simp [all]
  | cons check checks ih =>
      -- a list passes when its head and, by induction, its tail do
      rw [all, map_eq_ok_iff]
      simp only [both_eq_ok_iff, ih]
      cases as with
      | nil => simp
      | cons a as =>
          constructor
          · rintro ⟨⟨b, bs⟩, ⟨hb, hbs⟩, h⟩
            cases h
            rw [hb, hbs, List.map_cons]
          · intro h
            obtain ⟨hb, hbs⟩ := List.cons.inj h
            exact ⟨(a, as), ⟨hb, hbs⟩, rfl⟩

theorem map_under {α β : Type} (step : Step) (c : Checked α) (f : α → β) :
    (c.under step).map f = under step (c.map f) := by
  cases c <;> rfl

theorem map_all {α β : Type} (f : α → β) (checks : List (Checked α)) :
    (all checks).map (List.map f) = all (checks.map (Except.map f)) := by
  induction checks with
  | nil => rfl
  | cons check checks ih =>
      rw [List.map_cons, all, all, ← ih]
      cases check <;> cases all checks <;> rfl

end Checked

/-! ## Accounts -/

theorem Checked.text_eq_ok_iff {v : Value} {s : String} : text v = .ok s ↔ v = .text s := by
  cases v <;> simp [text]

namespace Number

theorem check_schema_whole (n : Int) : schema.check (.number (.whole n)) = .ok (.inl n) :=
  rfl

theorem check_schema_double (x : Binary64) :
    schema.check (.number (.double x)) =
      if x.isFinite then .ok (.inr x)
      else .error [⟨[.member "int"], .notInteger⟩, ⟨[.member "float"], .notFinite⟩] := by
  show Checked.either _ _ _ (if x.isFinite then _ else _) = _
  split <;> rfl

theorem check_schema_of_ne {v : Value} (h : ∀ n, v ≠ .number n) :
    schema.check v =
      .error [⟨[.member "int"], .notInteger⟩, ⟨[.member "float"], .notNumber⟩] := by
  cases v with
  | number n => exact absurd rfl (h n)
  | _ => rfl

theorem exists_check_schema {n : Number} (h : n.isFinite = true) :
    ∃ d, schema.check (.number n) = .ok d ∧ ofSum d = n := by
  cases n with
  | whole n => exact ⟨.inl n, rfl, rfl⟩
  | double x => exact ⟨.inr x, (check_schema_double x).trans (if_pos h), rfl⟩

theorem check_schema_eq_ok_iff {v : Value} {d : Int ⊕ Binary64} :
    schema.check v = .ok d ↔ v = .number (ofSum d) ∧ (ofSum d).isFinite = true := by
  by_cases hv : ∃ n, v = .number n
  · obtain ⟨n, rfl⟩ := hv
    cases n with
    | whole n => cases d <;> simp [check_schema_whole, ofSum, isFinite]
    | double x =>
        rw [check_schema_double]
        cases d with
        | inl n => split <;> simp [ofSum]
        | inr y =>
            split
            · rename_i hx
              constructor
              · rintro ⟨⟩
                exact ⟨rfl, hx⟩
              · rintro ⟨⟨⟩, _⟩
                rfl
            · rename_i hx
              constructor
              · rintro ⟨⟩
              · rintro ⟨⟨⟩, hy⟩
                exact absurd hy hx
  · have hnumber : ∀ n, v ≠ .number n := fun n h => hv ⟨n, h⟩
    rw [check_schema_of_ne hnumber]
    exact iff_of_false nofun fun h => hnumber _ h.1

end Number

/-- The record of an account, with its id, its balance and its currency. -/
inductive CarriesAccount : Value → Account → Prop
  | mk {members : List (String × Value)} {id currency : String} {balance : Number}
      (hid : Value.lookup "id" members = some (.text id))
      (hbalance : Value.lookup "balance" members = some (.number balance))
      (hfinite : balance.isFinite = true)
      (hcurrency : Value.lookup "currency" members = some (.text currency)) :
      CarriesAccount (.object members) ⟨id, .number balance, some currency⟩

namespace Account

/-- The members of an account are checked each for itself. -/
theorem ofValue_object (members : List (String × Value)) :
    ofValue (.object members) =
      ((Checked.member "id" ((Value.lookup "id" members).map Checked.text)).both
        ((Checked.member "balance" ((Value.lookup "balance" members).map Number.schema.check)).both
          (Checked.member "currency" ((Value.lookup "currency" members).map Checked.text)))).map
        fun (id, balance, currency) => ⟨id, .number (.ofSum balance), some currency⟩ := by
  show ((Checked.member "id" ((Value.lookup "id" members).map Checked.text)).both
    ((Checked.member "balance" ((Value.lookup "balance" members).map Number.schema.check)).both
      ((Checked.member "currency" ((Value.lookup "currency" members).map Checked.text)).both
        (.ok ())))).map ofData = _
  cases Checked.member "id" ((Value.lookup "id" members).map Checked.text) <;>
    cases Checked.member "balance" ((Value.lookup "balance" members).map Number.schema.check) <;>
      cases Checked.member "currency" ((Value.lookup "currency" members).map Checked.text) <;> rfl

theorem ofValue_eq_ok_iff {v : Value} {a : Account} :
    ofValue v = .ok a ↔ CarriesAccount v a := by
  constructor
  · intro h
    cases v with
    | object members =>
        rw [ofValue_object, map_eq_ok_iff] at h
        obtain ⟨⟨id, d, currency⟩, hparts, rfl⟩ := h
        simp only [Checked.both_eq_ok_iff, Checked.member_eq_ok_iff, Option.map_eq_some_iff,
          Checked.text_eq_ok_iff, Number.check_schema_eq_ok_iff] at hparts
        obtain ⟨⟨_, hid, rfl⟩, ⟨_, hbalance, rfl, hfinite⟩, _, hcurrency, rfl⟩ := hparts
        exact .mk hid hbalance hfinite hcurrency
    | _ => cases h
  · rintro ⟨hid, hbalance, hfinite, hcurrency⟩
    obtain ⟨d, _, rfl⟩ := Number.exists_check_schema hfinite
    rw [ofValue_object, map_eq_ok_iff]
    refine ⟨(_, d, _), ?_, rfl⟩
    simp only [Checked.both_eq_ok_iff, Checked.member_eq_ok_iff, Option.map_eq_some_iff,
      Checked.text_eq_ok_iff, Number.check_schema_eq_ok_iff]
    exact ⟨⟨_, hid, rfl⟩, ⟨_, hbalance, rfl, hfinite⟩, _, hcurrency, rfl⟩

/-- An account whose balance is a finite number and whose currency is given. -/
structure Shaped (a : Account) : Prop where
  balance : ∃ n : Number, a.balance = .number n ∧ n.isFinite = true
  currency : ∃ text, a.currency = some text

end Account

namespace CarriesAccount

variable {v : Value} {a b : Account}

theorem shaped (h : CarriesAccount v a) : a.Shaped := by
  cases h with
  | mk hid hbalance hfinite hcurrency => exact ⟨⟨_, rfl, hfinite⟩, _, rfl⟩

/-- The record of an account carries that account, if it is shaped. -/
theorem toValue_iff : CarriesAccount a.toValue b ↔ b = a ∧ a.Shaped := by
  obtain ⟨id, balance, currency⟩ := a
  constructor
  · intro h
    have hshaped := h.shaped
    obtain ⟨hid, hbalance, _, hcurrency⟩ := h
    cases hid
    cases hbalance
    cases currency with
    | none => cases hcurrency
    | some text =>
        cases hcurrency
        exact ⟨rfl, hshaped⟩
  · rintro ⟨rfl, ⟨n, hbalance, hn⟩, text, hcurrency⟩
    cases hbalance
    cases hcurrency
    exact .mk rfl rfl hn rfl

end CarriesAccount

/-- The check of its own record tells whether an account is shaped. -/
theorem Account.shaped_iff_isOk {a : Account} : a.Shaped ↔ (ofValue a.toValue).isOk = true := by
  constructor
  · intro h
    rw [ofValue_eq_ok_iff.mpr (CarriesAccount.toValue_iff.mpr ⟨rfl, h⟩)]
    rfl
  · intro h
    cases hcheck : ofValue a.toValue with
    | error _ =>
        rw [hcheck] at h
        cases h
    | ok b => exact (CarriesAccount.toValue_iff.mp (ofValue_eq_ok_iff.mp hcheck)).2

instance (a : Account) : Decidable a.Shaped :=
  decidable_of_iff _ Account.shaped_iff_isOk.symm

/-! ## Payloads -/

/-- A payload of the right shape, with its accounts in order and its instruction. -/
inductive Carries : Value → Request → Prop
  | mk {members : List (String × Value)} {items : List Value} {accounts : List Account}
      {instruction : String}
      (hlist : Value.lookup "accounts" members = some (.list items))
      (hitems : List.Forall₂ CarriesAccount items accounts)
      (htext : Value.lookup "instruction" members = some (.text instruction)) :
      Carries (.object members) ⟨accounts, instruction⟩

theorem mapIdx_eq_map_iff {α β γ : Type} {R : α → β → Prop} {f : Nat → α → γ} {g : β → γ}
    (h : ∀ i a b, f i a = g b ↔ R a b) (as : List α) (bs : List β) :
    as.mapIdx f = bs.map g ↔ List.Forall₂ R as bs := by
  induction as generalizing f bs with
  | nil => cases bs <;> simp
  | cons a as ih =>
      cases bs with
      | nil => simp
      | cons b bs =>
          rw [List.mapIdx_cons, List.map_cons, List.cons.injEq, List.forall₂_cons, h,
            ih fun i => h (i + 1)]

namespace Request

/-- The accounts of a list are checked each for itself. -/
theorem accountsOf_list (items : List Value) :
    accountsOf (some (.list items)) =
      (Checked.all (items.mapIdx fun i item => (Account.ofValue item).under (.item i))).under
        (.member "accounts") := by
  show (Checked.under _ (Checked.all (items.mapIdx fun i item =>
    (Account.schema.check item).under (.item i)))).map _ = _
  rw [Checked.map_under, Checked.map_all, List.mapIdx_eq_zipIdx_map, List.mapIdx_eq_zipIdx_map,
    List.map_map]
  congr 2
  exact List.map_congr_left fun _ _ => Checked.map_under _ _ _

theorem accountsOf_eq_ok_iff {v : Option Value} {accounts : List Account} :
    accountsOf v = .ok accounts ↔
      ∃ items, v = some (.list items) ∧ List.Forall₂ CarriesAccount items accounts := by
  have hitem : ∀ (i : Nat) item a,
      (Account.ofValue item).under (.item i) = .ok a ↔ CarriesAccount item a :=
    fun _ _ _ => Checked.under_eq_ok_iff.trans Account.ofValue_eq_ok_iff
  constructor
  · intro h
    match v with
    | some (.list items) =>
        rw [accountsOf_list, Checked.under_eq_ok_iff, Checked.all_eq_ok_iff,
          mapIdx_eq_map_iff hitem] at h
        exact ⟨items, rfl, h⟩
    | none | some .null | some (.bool _) | some (.number _) | some (.text _)
      | some (.object _) => cases h
  · rintro ⟨items, rfl, h⟩
    rwa [accountsOf_list, Checked.under_eq_ok_iff, Checked.all_eq_ok_iff, mapIdx_eq_map_iff hitem]

/-- The accounts and the instruction are checked each for itself. -/
theorem ofValue_object (members : List (String × Value)) :
    ofValue (.object members) =
      ((accountsOf (Value.lookup "accounts" members)).both
        (Checked.member "instruction" ((Value.lookup "instruction" members).map Checked.text))).map
        fun (accounts, instruction) => ⟨accounts, instruction⟩ := by
  show ((Validator.member "accounts" (.list Account.schema) (Value.lookup "accounts" members)).both
    ((Checked.member "instruction" ((Value.lookup "instruction" members).map Checked.text)).both
      (.ok ()))).map ofData = _
  unfold accountsOf
  cases Validator.member "accounts" (.list Account.schema) (Value.lookup "accounts" members) <;>
    cases Checked.member "instruction" ((Value.lookup "instruction" members).map Checked.text) <;>
      rfl

/-- The check of a payload accepts what carries a request, and yields that request. -/
theorem ofValue_eq_ok_iff {payload : Value} {request : Request} :
    ofValue payload = .ok request ↔ Carries payload request := by
  constructor
  · intro h
    cases payload with
    | object members =>
        rw [ofValue_object, map_eq_ok_iff] at h
        obtain ⟨⟨accounts, text⟩, hparts, rfl⟩ := h
        simp only [Checked.both_eq_ok_iff, Checked.member_eq_ok_iff, Option.map_eq_some_iff,
          Checked.text_eq_ok_iff, accountsOf_eq_ok_iff] at hparts
        obtain ⟨⟨items, hlist, hitems⟩, _, htext, rfl⟩ := hparts
        exact .mk hlist hitems htext
    | _ => cases h
  · rintro ⟨hlist, hitems, htext⟩
    rw [ofValue_object, map_eq_ok_iff]
    refine ⟨(_, _), ?_, rfl⟩
    simp only [Checked.both_eq_ok_iff, Checked.member_eq_ok_iff, Option.map_eq_some_iff,
      Checked.text_eq_ok_iff, accountsOf_eq_ok_iff]
    exact ⟨⟨_, hlist, hitems⟩, _, htext, rfl⟩

/-! ## Accounts that are submitted -/

theorem shaped_of_forall₂ {items : List Value} {accounts : List Account}
    (h : List.Forall₂ CarriesAccount items accounts) : ∀ a ∈ accounts, a.Shaped := by
  induction h with
  | nil => exact List.forall_mem_nil _
  | cons hitem _ ih => exact List.forall_mem_cons.mpr ⟨hitem.shaped, ih⟩

theorem shaped_of_accountsOf {v : Option Value} {accounts : List Account}
    (h : accountsOf v = .ok accounts) : ∀ a ∈ accounts, a.Shaped := by
  obtain ⟨_, _, hitems⟩ := accountsOf_eq_ok_iff.mp h
  exact shaped_of_forall₂ hitems

theorem shaped_of_ofValue {payload : Value} {request : Request}
    (h : ofValue payload = .ok request) : ∀ a ∈ request.accounts, a.Shaped := by
  obtain ⟨_, hitems, _⟩ := ofValue_eq_ok_iff.mp h
  exact shaped_of_forall₂ hitems

/-- Accounts that are submitted again are accepted as they are or refused. -/
theorem accountsOf_accountsValue_eq_ok_iff {accounts accepted : List Account} :
    accountsOf (some (accountsValue accounts)) = .ok accepted ↔
      accepted = accounts ∧ ∀ a ∈ accounts, a.Shaped := by
  have hforall : List.Forall₂ CarriesAccount (accounts.map Account.toValue) accepted ↔
      accepted = accounts ∧ ∀ a ∈ accounts, a.Shaped := by
    induction accounts generalizing accepted with
    | nil => simp
    | cons a accounts ih =>
        cases accepted with
        | nil => simp
        | cons b accepted =>
            rw [List.map_cons, List.forall₂_cons, ih, CarriesAccount.toValue_iff,
              List.cons.injEq, List.forall_mem_cons]
            exact and_and_and_comm
  rw [accountsOf_eq_ok_iff, ← hforall]
  constructor
  · rintro ⟨_, ⟨⟩, h⟩
    exact h
  · intro h
    exact ⟨_, rfl, h⟩

/-- Shaped accounts pass the check of the list that holds them. -/
theorem accountsOf_accountsValue {accounts : List Account} (h : ∀ a ∈ accounts, a.Shaped) :
    accountsOf (some (accountsValue accounts)) = .ok accounts :=
  accountsOf_accountsValue_eq_ok_iff.mpr ⟨rfl, h⟩

/-- A payload of a list and a text is checked as the list is. -/
theorem ofValue_payload_eq (submitted : Value) (text : String) :
    ofValue (payload submitted (.text text)) =
      (accountsOf (some submitted)).map fun accounts => ⟨accounts, text⟩ := by
  rw [payload, ofValue_object]
  show ((accountsOf (some submitted)).both (.ok text)).map _ = _
  cases accountsOf (some submitted) <;> rfl

/-- A payload of an accepted list and a text is accepted. -/
theorem ofValue_payload {submitted : Value} {accounts : List Account} (text : String)
    (h : accountsOf (some submitted) = .ok accounts) :
    ofValue (payload submitted (.text text)) = .ok ⟨accounts, text⟩ := by
  rw [ofValue_payload_eq, h]
  rfl

/-- A payload of a refused list and a text has the violations of the list. -/
theorem ofValue_payload_refused {submitted : Value} {violations : List Shape.Violation}
    (text : String) (h : accountsOf (some submitted) = .error violations) :
    ofValue (payload submitted (.text text)) = .error violations := by
  rw [ofValue_payload_eq, h]
  rfl

/-- A request with shaped accounts is read back from its payload. -/
theorem ofValue_toValue {request : Request} (h : ∀ a ∈ request.accounts, a.Shaped) :
    ofValue request.toValue = .ok request :=
  ofValue_payload _ (accountsOf_accountsValue h)

end Request

end Remittance
