import Remittance.Proofs.Totality
import Remittance.Proofs.Validator
import Remittance.Service.App

/-!
# The violations of a payload

What is wrong with a payload is said by a relation that does not compute, one rule for each
kind of problem (`Violates`). A check that joins checks lists the violations of the parts, each
once and in order (`Lists`), so the check of a payload lists its violations in the order of
the fields (`Request.ofValue_lists`). With any validator that does what is known of validators
a payload is refused exactly when it carries no request, and with that list
(`process_refuses`).
-/

namespace Remittance

open Shape

namespace Shape

/-! ## What is wrong with a value -/

/-- A member must be there and be right. -/
inductive MemberViolation (wrong : Value → Violation → Prop) (name : String) :
    Option Value → Violation → Prop
  | missing : MemberViolation wrong name none ⟨[.member name], .missing⟩
  | value {v : Value} {x : Violation} (h : wrong v x) :
      MemberViolation wrong name (some v) (x.under (.member name))

inductive TextViolation : Value → Violation → Prop
  | notText {v : Value} (h : ∀ s, v ≠ .text s) : TextViolation v ⟨[], .notText⟩

/-- The value is an integer or a finite number. -/
def IsBalance (v : Value) : Prop :=
  ∃ n : Number, v = .number n ∧ n.isFinite = true

/-- What is no balance violates both kinds of number. -/
inductive BalanceViolation : Value → Violation → Prop
  | notInteger {v : Value} (h : ¬ IsBalance v) :
      BalanceViolation v ⟨[.member "int"], .notInteger⟩
  | notNumber {v : Value} (h : ∀ n, v ≠ .number n) :
      BalanceViolation v ⟨[.member "float"], .notNumber⟩
  | notFinite {x : Binary64} (h : x = .nan ∨ ∃ negative, x = .infinite negative) :
      BalanceViolation (.number (.double x)) ⟨[.member "float"], .notFinite⟩

inductive AccountViolation : Value → Violation → Prop
  | notObject {v : Value} (h : ∀ members, v ≠ .object members) :
      AccountViolation v ⟨[], .notObject .account⟩
  | id {members : List (String × Value)} {x : Violation}
      (h : MemberViolation TextViolation "id" (Value.lookup "id" members) x) :
      AccountViolation (.object members) x
  | balance {members : List (String × Value)} {x : Violation}
      (h : MemberViolation BalanceViolation "balance" (Value.lookup "balance" members) x) :
      AccountViolation (.object members) x
  | currency {members : List (String × Value)} {x : Violation}
      (h : MemberViolation TextViolation "currency" (Value.lookup "currency" members) x) :
      AccountViolation (.object members) x

/-- The accounts of a payload must be a list of accounts. -/
inductive AccountsViolation : Value → Violation → Prop
  | notList {v : Value} (h : ∀ items, v ≠ .list items) : AccountsViolation v ⟨[], .notList⟩
  | item {items : List Value} {i : Nat} {item : Value} {x : Violation}
      (hitem : items[i]? = some item) (h : AccountViolation item x) :
      AccountsViolation (.list items) (x.under (.item i))

/-- What is wrong with a payload. -/
inductive Violates : Value → Violation → Prop
  | notObject {v : Value} (h : ∀ members, v ≠ .object members) :
      Violates v ⟨[], .notObject .request⟩
  | accounts {members : List (String × Value)} {x : Violation}
      (h : MemberViolation AccountsViolation "accounts" (Value.lookup "accounts" members) x) :
      Violates (.object members) x
  | instruction {members : List (String × Value)} {x : Violation}
      (h : MemberViolation TextViolation "instruction" (Value.lookup "instruction" members) x) :
      Violates (.object members) x

/-! ## The order of violations -/

/-- The names of members in the order in which they are checked. -/
def fieldOrder : List String :=
  ["accounts", "instruction", "id", "balance", "currency", "int", "float"]

def Step.rank : Step → Nat
  | .member name => fieldOrder.idxOf name
  | .item index => index

/-- The paths of the violations part at some step, and that of the first comes first. -/
def Before (x y : Violation) : Prop :=
  ∃ (place : List Step) (a b : Step) (s t : List Step),
    x.path = place ++ a :: s ∧ y.path = place ++ b :: t ∧ a.rank < b.rank

theorem Before.path_ne {x y : Violation} (h : Before x y) : x.path ≠ y.path := by
  obtain ⟨place, a, b, s, t, hx, hy, hlt⟩ := h
  intro heq
  rw [hx, hy, List.append_cancel_left_eq, List.cons.injEq] at heq
  rw [heq.1] at hlt
  exact lt_irrefl _ hlt

theorem Before.under {x y : Violation} (h : Before x y) (step : Step) :
    Before (x.under step) (y.under step) := by
  obtain ⟨place, a, b, s, t, hx, hy, hlt⟩ := h
  exact ⟨step :: place, a, b, s, t, congrArg _ hx, congrArg _ hy, hlt⟩

theorem before_of_rank_lt {a b : Step} (h : a.rank < b.rank) (x y : Violation) :
    Before (x.under a) (y.under b) :=
  ⟨[], a, b, x.path, y.path, rfl, rfl, h⟩

/-- The violations of a member lie below its name. -/
theorem MemberViolation.exists_under {wrong : Value → Violation → Prop} {name : String}
    {v : Option Value} {x : Violation} (h : MemberViolation wrong name v x) :
    ∃ y : Violation, x = y.under (.member name) := by
  cases h with
  | missing => exact ⟨⟨[], .missing⟩, rfl⟩
  | value h => exact ⟨_, rfl⟩

theorem MemberViolation.before {wrong wrong' : Value → Violation → Prop} {name name' : String}
    {v v' : Option Value} {x y : Violation} (hx : MemberViolation wrong name v x)
    (hy : MemberViolation wrong' name' v' y)
    (h : (Step.member name).rank < (Step.member name').rank) : Before x y := by
  obtain ⟨x, rfl⟩ := hx.exists_under
  obtain ⟨y, rfl⟩ := hy.exists_under
  exact before_of_rank_lt h x y

/-! ## Lists of violations -/

/-- The list holds each violation of a kind once, in order. -/
structure Lists (violations : List Violation) (wrong : Violation → Prop) : Prop where
  mem_iff : ∀ x, x ∈ violations ↔ wrong x
  ordered : violations.Pairwise Before

theorem Lists.nil {wrong : Violation → Prop} (h : ∀ x, ¬ wrong x) : Lists [] wrong where
  mem_iff x := iff_of_false List.not_mem_nil (h x)
  ordered := .nil

theorem Lists.single {wrong : Violation → Prop} {x : Violation} (h : wrong x)
    (honly : ∀ y, wrong y → y = x) : Lists [x] wrong where
  mem_iff y := by
    rw [List.mem_singleton]
    constructor
    · rintro rfl
      exact h
    · exact honly y
  ordered := List.pairwise_singleton _ _

theorem Lists.append {xs ys : List Violation} {wrong wrong' : Violation → Prop}
    (hx : Lists xs wrong) (hy : Lists ys wrong')
    (h : ∀ x y, wrong x → wrong' y → Before x y) :
    Lists (xs ++ ys) fun x => wrong x ∨ wrong' x where
  mem_iff x := by rw [List.mem_append, hx.mem_iff, hy.mem_iff]
  ordered := by
    rw [List.pairwise_append]
    refine ⟨hx.ordered, hy.ordered, ?_⟩
    intro x hxs y hys
    exact h x y ((hx.mem_iff x).mp hxs) ((hy.mem_iff y).mp hys)

theorem Lists.congr {xs : List Violation} {wrong wrong' : Violation → Prop} (hx : Lists xs wrong)
    (h : ∀ x, wrong x ↔ wrong' x) : Lists xs wrong' where
  mem_iff x := (hx.mem_iff x).trans (h x)
  ordered := hx.ordered

theorem Lists.under {xs : List Violation} {wrong : Violation → Prop} (h : Lists xs wrong)
    (step : Step) :
    Lists (xs.map (Violation.under step)) fun x => ∃ y, wrong y ∧ x = y.under step where
  mem_iff x := by
    rw [List.mem_map]
    simp only [h.mem_iff, eq_comm]
  ordered := List.pairwise_map.mpr (h.ordered.imp fun hbefore => hbefore.under step)

end Shape

namespace Checked

/-! ## Checks that list violations -/

/-- What a check found wrong. -/
def violations {α : Type} : Checked α → List Violation
  | .ok _ => []
  | .error xs => xs

theorem violations_map {α β : Type} (c : Checked α) (f : α → β) :
    violations (c.map f) = violations c := by
  cases c with
  | ok a => rfl
  | error xs => rfl

theorem violations_both {α β : Type} (c : Checked α) (d : Checked β) :
    violations (c.both d) = violations c ++ violations d := by
  cases c with
  | ok a =>
      cases d with
      | ok b => rfl
      | error ys => rfl
  | error xs =>
      cases d with
      | ok b => exact (List.append_nil xs).symm
      | error ys => rfl

theorem violations_all {α : Type} (cs : List (Checked α)) :
    violations (all cs) = cs.flatMap violations := by
  induction cs with
  | nil => rfl
  | cons c cs ih => rw [all, violations_map, violations_both, ih, List.flatMap_cons]

theorem violations_under {α : Type} (step : Step) (c : Checked α) :
    violations (c.under step) = (violations c).map (Violation.under step) := by
  cases c with
  | ok a => rfl
  | error xs => rfl

/-- The check lists what is wrong with a value. -/
def Detects {α : Type} (check : Value → Checked α) (wrong : Value → Violation → Prop) : Prop :=
  ∀ v, Lists (violations (check v)) (wrong v)

theorem Detects.member {α : Type} {check : Value → Checked α} {wrong : Value → Violation → Prop}
    (h : Detects check wrong) (name : String) (v : Option Value) :
    Lists (violations (member name (v.map check))) (MemberViolation wrong name v) := by
  cases v with
  | none =>
      refine Lists.single .missing ?_
      rintro _ ⟨⟩
      rfl
  | some v =>
      rw [Option.map_some, Checked.member, violations_under]
      refine ((h v).under _).congr fun x => ?_
      constructor
      · rintro ⟨y, hy, rfl⟩
        exact .value hy
      · rintro ⟨⟩
        exact ⟨_, ‹_›, rfl⟩

/-- The violations of the items of a list, those of an earlier item first. -/
theorem Detects.all {α : Type} {check : Value → Checked α} {wrong : Value → Violation → Prop}
    (h : Detects check wrong) (items : List Value) :
    Lists (violations (all (items.mapIdx fun i item => (check item).under (.item i))))
      fun x => ∃ i item y, items[i]? = some item ∧ wrong item y ∧ x = y.under (.item i) := by
  rw [violations_all]
  have hitem := fun (i : Nat) item => (h item).under (.item i)
  constructor
  · intro x
    rw [List.mem_flatMap]
    constructor
    · rintro ⟨c, hc, hx⟩
      obtain ⟨i, hi, rfl⟩ := List.mem_mapIdx.mp hc
      rw [violations_under, (hitem i _).mem_iff] at hx
      obtain ⟨y, hy, rfl⟩ := hx
      exact ⟨i, _, y, List.getElem?_eq_getElem hi, hy, rfl⟩
    · rintro ⟨i, item, y, hget, hy, rfl⟩
      obtain ⟨hi, rfl⟩ := List.getElem?_eq_some_iff.mp hget
      refine ⟨_, List.mem_mapIdx.mpr ⟨i, hi, rfl⟩, ?_⟩
      rw [violations_under, (hitem i _).mem_iff]
      exact ⟨y, hy, rfl⟩
  · rw [List.pairwise_flatMap]
    constructor
    · intro c hc
      obtain ⟨i, hi, rfl⟩ := List.mem_mapIdx.mp hc
      rw [violations_under]
      exact (hitem i _).ordered
    · rw [List.pairwise_iff_getElem]
      intro i j hi hj hij x hx y hy
      rw [List.getElem_mapIdx, violations_under, List.mem_map] at hx hy
      obtain ⟨x, _, rfl⟩ := hx
      obtain ⟨y, _, rfl⟩ := hy
      exact before_of_rank_lt (show (Step.item i).rank < (Step.item j).rank from hij) x y

theorem detects_text : Detects text TextViolation := by
  intro v
  by_cases hv : ∃ s, v = .text s
  · obtain ⟨s, rfl⟩ := hv
    refine Lists.nil ?_
    rintro _ ⟨h⟩
    exact h s rfl
  · have htext : ∀ s, v ≠ .text s := fun s hs => hv ⟨s, hs⟩
    have hcheck : text v = .error [⟨[], .notText⟩] := by
      cases v with
      | text s => exact absurd rfl (htext s)
      | _ => rfl
    rw [hcheck]
    refine Lists.single (.notText htext) ?_
    rintro _ ⟨⟩
    rfl

theorem lists_pair {wrong : Violation → Prop} {problem : Problem}
    (h : ∀ x, wrong x ↔ x = ⟨[.member "int"], .notInteger⟩ ∨ x = ⟨[.member "float"], problem⟩) :
    Lists [⟨[.member "int"], .notInteger⟩, ⟨[.member "float"], problem⟩] wrong where
  mem_iff x := by simp [h]
  ordered := by
    rw [List.pairwise_pair]
    exact before_of_rank_lt (by decide) ⟨[], .notInteger⟩ ⟨[], problem⟩

/-- What is no balance is a number that is not finite, or no number at all. -/
theorem not_isBalance_cases {v : Value} (h : ¬ IsBalance v) :
    (∃ x : Binary64, v = .number (.double x) ∧ x.isFinite = false ∧
      (x = .nan ∨ ∃ negative, x = .infinite negative)) ∨ ∀ n, v ≠ .number n := by
  cases v with
  | number n =>
      left
      cases n with
      | whole n => exact absurd ⟨_, rfl, rfl⟩ h
      | double x =>
          cases x with
          | finite negative magnitude => exact absurd ⟨_, rfl, rfl⟩ h
          | infinite negative => exact ⟨_, rfl, rfl, Or.inr ⟨negative, rfl⟩⟩
          | nan => exact ⟨_, rfl, rfl, Or.inl rfl⟩
  | _ =>
      right
      rintro n ⟨⟩

theorem detects_number : Detects Number.schema.check BalanceViolation := by
  intro v
  by_cases hv : IsBalance v
  · obtain ⟨n, rfl, hn⟩ := hv
    obtain ⟨d, hcheck, _⟩ := Number.exists_check_schema hn
    rw [hcheck]
    refine Lists.nil ?_
    rintro _ (h | h | h)
    · exact h ⟨n, rfl, hn⟩
    · exact h n rfl
    · rcases h with rfl | ⟨_, rfl⟩
      · cases hn
      · cases hn
  · rcases not_isBalance_cases hv with ⟨x, rfl, hfinite, hx⟩ | hnumber
    · rw [Number.check_schema_double, hfinite, if_neg Bool.false_ne_true]
      refine lists_pair fun y => ⟨?_, ?_⟩
      · rintro (_ | h | _)
        · exact Or.inl rfl
        · exact absurd rfl (h _)
        · exact Or.inr rfl
      · rintro (rfl | rfl)
        · exact .notInteger hv
        · exact .notFinite hx
    · rw [Number.check_schema_of_ne hnumber]
      refine lists_pair fun y => ⟨?_, ?_⟩
      · rintro (_ | _ | _)
        · exact Or.inl rfl
        · exact Or.inr rfl
        · exact absurd rfl (hnumber _)
      · rintro (rfl | rfl)
        · exact .notInteger hv
        · exact .notNumber hnumber

end Checked

open Checked

theorem Account.detects_ofValue : Detects ofValue AccountViolation := by
  intro v
  by_cases hv : ∃ members, v = .object members
  · obtain ⟨members, rfl⟩ := hv
    rw [ofValue_object, violations_map, violations_both, violations_both]
    have hid := detects_text.member "id" (Value.lookup "id" members)
    have hbalance := detects_number.member "balance" (Value.lookup "balance" members)
    have hcurrency := detects_text.member "currency" (Value.lookup "currency" members)
    have hrest := hbalance.append hcurrency fun x y hx hy => hx.before hy (by decide)
    refine (hid.append hrest ?_).congr ?_
    · rintro x y hx (hy | hy)
      · exact hx.before hy (by decide)
      · exact hx.before hy (by decide)
    · intro x
      constructor
      · rintro (h | h | h)
        · exact .id h
        · exact .balance h
        · exact .currency h
      · rintro (h | h | h | h)
        · exact absurd rfl (h members)
        · exact Or.inl h
        · exact Or.inr (Or.inl h)
        · exact Or.inr (Or.inr h)
  · have hobject : ∀ members, v ≠ .object members := fun members h => hv ⟨members, h⟩
    have hcheck : ofValue v = .error [⟨[], .notObject .account⟩] := by
      cases v with
      | object members => exact absurd rfl (hobject members)
      | _ => rfl
    rw [hcheck]
    refine Lists.single (.notObject hobject) ?_
    rintro _ (_ | _ | _ | _)
    · rfl
    all_goals exact absurd rfl (hobject _)

namespace Request

theorem detects_accounts : Detects (Schema.list Account.schema).check AccountsViolation := by
  have haccount : Detects Account.schema.check AccountViolation := by
    intro v
    have h := Account.detects_ofValue v
    rwa [Account.ofValue, violations_map] at h
  intro v
  by_cases hv : ∃ items, v = .list items
  · obtain ⟨items, rfl⟩ := hv
    refine (haccount.all items).congr fun x => ?_
    constructor
    · rintro ⟨i, item, y, hitem, hy, rfl⟩
      exact .item hitem hy
    · rintro (h | ⟨hitem, hy⟩)
      · exact absurd rfl (h items)
      · exact ⟨_, _, _, hitem, hy, rfl⟩
  · have hlist : ∀ items, v ≠ .list items := fun items h => hv ⟨items, h⟩
    have hcheck : (Schema.list Account.schema).check v = .error [⟨[], .notList⟩] := by
      cases v with
      | list items => exact absurd rfl (hlist items)
      | _ => rfl
    rw [hcheck]
    refine Lists.single (.notList hlist) ?_
    rintro _ (_ | _)
    · rfl
    · exact absurd rfl (hlist _)

theorem accountsOf_lists (v : Option Value) :
    Lists (violations (accountsOf v)) (MemberViolation AccountsViolation "accounts" v) := by
  rw [accountsOf, violations_map]
  exact detects_accounts.member "accounts" v

/-- The check of a payload lists its violations. -/
theorem ofValue_lists (payload : Value) :
    Lists (violations (ofValue payload)) (Violates payload) := by
  by_cases hv : ∃ members, payload = .object members
  · obtain ⟨members, rfl⟩ := hv
    rw [ofValue_object, violations_map, violations_both]
    have haccounts := accountsOf_lists (Value.lookup "accounts" members)
    have htext := detects_text.member "instruction" (Value.lookup "instruction" members)
    refine (haccounts.append htext fun x y hx hy => hx.before hy (by decide)).congr ?_
    intro x
    constructor
    · rintro (h | h)
      · exact .accounts h
      · exact .instruction h
    · rintro (h | h | h)
      · exact absurd rfl (h members)
      · exact Or.inl h
      · exact Or.inr h
  · have hobject : ∀ members, payload ≠ .object members := fun members h => hv ⟨members, h⟩
    have hcheck : ofValue payload = .error [⟨[], .notObject .request⟩] := by
      cases payload with
      | object members => exact absurd rfl (hobject members)
      | _ => rfl
    rw [hcheck]
    refine Lists.single (.notObject hobject) ?_
    rintro _ (_ | _ | _)
    · rfl
    all_goals exact absurd rfl (hobject _)

end Request

/-! ## Members that nobody asks for -/

/-- Two items with the same members as far as an account has them. -/
inductive SameAccount : Value → Value → Prop
  | refl (v : Value) : SameAccount v v
  | object {members others : List (String × Value)}
      (h : ∀ name ∈ ["id", "balance", "currency"],
        Value.lookup name members = Value.lookup name others) :
      SameAccount (.object members) (.object others)

/-- Two values in the place of the accounts that differ at most in extra members. -/
inductive SameAccounts : Option Value → Option Value → Prop
  | refl (v : Option Value) : SameAccounts v v
  | list {items others : List Value} (h : List.Forall₂ SameAccount items others) :
      SameAccounts (some (.list items)) (some (.list others))

/-- Two payloads that differ at most in extra members. -/
inductive SamePayload : Value → Value → Prop
  | refl (v : Value) : SamePayload v v
  | object {members others : List (String × Value)}
      (haccounts : SameAccounts (Value.lookup "accounts" members) (Value.lookup "accounts" others))
      (htext : Value.lookup "instruction" members = Value.lookup "instruction" others) :
      SamePayload (.object members) (.object others)

theorem SameAccount.ofValue_eq {v w : Value} (h : SameAccount v w) :
    Account.ofValue v = Account.ofValue w := by
  cases h with
  | refl => rfl
  | object h =>
      simp only [List.forall_mem_cons] at h
      obtain ⟨hid, hbalance, hcurrency, _⟩ := h
      rw [Account.ofValue_object, Account.ofValue_object, hid, hbalance, hcurrency]

theorem mapIdx_eq_of_forall₂ {α γ : Type} {R : α → α → Prop} {f : Nat → α → γ}
    (h : ∀ i a b, R a b → f i a = f i b) {as bs : List α} (hall : List.Forall₂ R as bs) :
    as.mapIdx f = bs.mapIdx f := by
  induction hall generalizing f with
  | nil => rfl
  | cons hab _ ih => rw [List.mapIdx_cons, List.mapIdx_cons, h 0 _ _ hab, ih fun i => h (i + 1)]

theorem SameAccounts.accountsOf_eq {v w : Option Value} (h : SameAccounts v w) :
    Request.accountsOf v = Request.accountsOf w := by
  cases h with
  | refl => rfl
  | list h =>
      rw [Request.accountsOf_list, Request.accountsOf_list,
        mapIdx_eq_of_forall₂ (fun i _ _ hab => congrArg (under (.item i)) hab.ofValue_eq) h]

theorem SamePayload.ofValue_eq {v w : Value} (h : SamePayload v w) :
    Request.ofValue v = Request.ofValue w := by
  cases h with
  | refl => rfl
  | object haccounts htext =>
      rw [Request.ofValue_object, Request.ofValue_object, haccounts.accountsOf_eq, htext]

theorem SamePayload.process_eq {v w : Value} (h : SamePayload v w) (today : Date) :
    process v today = process w today := by
  rw [process, process, readRequest, readRequest, h.ofValue_eq]

/-! ## Refusals -/

theorem process_eq_payload_iff {payload : Value} {today : Date} {violations : List Violation} :
    process payload today = .error (.payload violations) ↔
      Request.ofValue payload = .error violations := by
  rw [process_eq_error_iff]
  constructor
  · rintro (⟨_, h, ⟨⟩⟩ | ⟨_, _, _, ⟨⟩⟩)
    exact h
  · intro h
    exact Or.inl ⟨violations, h, rfl⟩

theorem exists_process_eq_payload_iff {payload : Value} {today : Date} :
    (∃ violations, process payload today = .error (.payload violations)) ↔
      ¬ ∃ request, Carries payload request := by
  simp only [process_eq_payload_iff, ← Request.ofValue_eq_ok_iff]
  cases Request.ofValue payload <;> simp

section

variable [V : Validator]

theorem Service.answerPayload_of_refused {payload : Value} {today : Date}
    {violations : List Violation} (h : process payload today = .error (.payload violations)) :
    answerPayload payload today = .error (refusal payload violations) := by
  rw [answerPayload, h]

/-- Processing refuses exactly the payloads that carry no request, whatever their instruction
says. The refusal lists every violation once, in the order of the fields, and the error with
the status 422 that it is raised as tells their number. Any other payload is evaluated with the
accounts and the instruction that it carries, and members that nobody asks for change
nothing. -/
theorem process_refuses (hV : V.Documented) (payload : Value) (today : Date) :
    ((∃ violations, process payload today = .error (.payload violations)) ↔
      ¬ ∃ request, Carries payload request) ∧
    (∀ violations, process payload today = .error (.payload violations) →
      Lists violations (Violates payload) ∧ (violations.map Violation.path).Nodup ∧
        ∃ report, Record.request.Heads violations.length report ∧
          Service.answerPayload payload today =
            .error (.app (.validation (Request.refusalMessage report)))) ∧
    (∀ request, Carries payload request →
      process payload today = evaluate request.instruction request.accounts today) ∧
    ∀ other, SamePayload payload other → process other today = process payload today := by
  refine ⟨?_, ?_, ?_, ?_⟩
  · rw [process_eq_standard hV]
    exact exists_process_eq_payload_iff
  · intro violations h
    have hreply := Service.answerPayload_of_refused h
    rw [process_eq_standard hV, process_eq_payload_iff] at h
    have hlists := Request.ofValue_lists payload
    rw [h] at hlists
    refine ⟨hlists, ?_, _, hV.report .request payload violations, hreply⟩
    rw [List.Nodup, List.pairwise_map]
    exact hlists.ordered.imp Before.path_ne
  · intro request hrequest
    rw [process_eq_standard hV, evaluate_eq_standard hV]
    exact process_eq_evaluate (Request.ofValue_eq_ok_iff.mpr hrequest) today
  · intro other h
    rw [process_eq_standard hV, process_eq_standard hV]
    exact (h.process_eq today).symm

end

/-- A payload without an instruction, whose accounts lack a currency and an object. -/
def misshapenPayload : Value :=
  .object [
    ("note", .bool true),
    ("accounts", .list [
      .object [("id", .number (.whole 7)), ("balance", .number (.double .nan)), ("owner", .null)],
      .null,
      .object [("id", .text "A2"), ("balance", .bool true), ("currency", .text "NGN")]])]

/-- The payload without the members that nobody asks for. -/
def barePayload : Value :=
  .object [
    ("accounts", .list [
      .object [("id", .number (.whole 7)), ("balance", .number (.double .nan))],
      .null,
      .object [("id", .text "A2"), ("balance", .bool true), ("currency", .text "NGN")]])]

def misshapenViolations : List Violation :=
  [⟨[.member "accounts", .item 0, .member "id"], .notText⟩,
    ⟨[.member "accounts", .item 0, .member "balance", .member "int"], .notInteger⟩,
    ⟨[.member "accounts", .item 0, .member "balance", .member "float"], .notFinite⟩,
    ⟨[.member "accounts", .item 0, .member "currency"], .missing⟩,
    ⟨[.member "accounts", .item 1], .notObject .account⟩,
    ⟨[.member "accounts", .item 2, .member "balance", .member "int"], .notInteger⟩,
    ⟨[.member "accounts", .item 2, .member "balance", .member "float"], .notNumber⟩,
    ⟨[.member "instruction"], .missing⟩]

/-- A payload of the right shape with a member that nobody asks for. -/
def annotatedPayload : Value :=
  .object [("note", .null), ("accounts", .list []), ("instruction", .text "DEBIT")]

theorem process_refuses_misshapenPayload :
    Validator.standard.Documented ∧
    (process misshapenPayload ⟨2026, 1, 15, by decide⟩ = .error (.payload misshapenViolations) ∧
      Lists misshapenViolations (Violates misshapenPayload) ∧
      ∃ report, Record.request.Heads 8 report ∧
        Service.answerPayload misshapenPayload ⟨2026, 1, 15, by decide⟩ =
          .error (.app (.validation (Request.refusalMessage report)))) ∧
    (Carries annotatedPayload ⟨[], "DEBIT"⟩ ∧
      process annotatedPayload ⟨2026, 1, 15, by decide⟩ =
        evaluate "DEBIT" [] ⟨2026, 1, 15, by decide⟩) ∧
    (SamePayload misshapenPayload barePayload ∧
      process barePayload ⟨2026, 1, 15, by decide⟩ =
        process misshapenPayload ⟨2026, 1, 15, by decide⟩) := by
  have hprocess : process misshapenPayload ⟨2026, 1, 15, by decide⟩ =
      .error (.payload misshapenViolations) := by
    rfl
  have hcarries : Carries annotatedPayload ⟨[], "DEBIT"⟩ := .mk rfl .nil rfl
  have hsame : SamePayload misshapenPayload barePayload := by
    refine .object (.list ?_) rfl
    refine .cons (.object ?_) (.cons (.refl _) (.cons (.refl _) .nil))
    simp only [List.forall_mem_cons]
    exact ⟨rfl, rfl, rfl, List.forall_mem_nil _⟩
  obtain ⟨_, hrefused, _, hextra⟩ := process_refuses Validator.standard_documented misshapenPayload
    ⟨2026, 1, 15, by decide⟩
  obtain ⟨_, _, haccepted, _⟩ := process_refuses Validator.standard_documented annotatedPayload
    ⟨2026, 1, 15, by decide⟩
  obtain ⟨hlists, _, hreply⟩ := hrefused _ hprocess
  exact ⟨Validator.standard_documented, ⟨hprocess, hlists, hreply⟩,
    ⟨hcarries, haccepted ⟨[], "DEBIT"⟩ hcarries⟩, hsame, hextra _ hsame⟩

end Remittance
