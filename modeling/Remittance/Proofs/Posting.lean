import Mathlib
import Remittance.Ledger
import Remittance.Proofs.Selection

/-!
# Posting to a list of accounts

`post` adds to the first account of every id what is due to that id and leaves later
accounts with the same id alone. Postings add up (`post_post`), and one account after
another can be read off (`getElem?_post`). Writing a balance back is a posting
(`setBalance_eq_post`), and it changes the sum over the accounts of a currency only
when the account has that currency (`sumWhere_post_single`).
-/

namespace Remittance

namespace Account

/-- The whole number on an account, zero when there is none. -/
def wholeBalance (a : Account) : Int :=
  match a.balance with
  | .number (.whole n) => n
  | _ => 0

def IsWhole (a : Account) : Prop :=
  a.balance = .number (.whole a.wholeBalance)

def plus (a : Account) (n : Int) : Account :=
  { a with balance := .number (.whole (a.wholeBalance + n)) }

theorem isWhole_iff {a : Account} : a.IsWhole ↔ ∃ n : Int, a.balance = .number (.whole n) := by
  constructor
  · intro h
    exact ⟨_, h⟩
  · rintro ⟨n, h⟩
    rw [IsWhole, wholeBalance, h]

@[simp] theorem id_plus (a : Account) (n : Int) : (a.plus n).id = a.id := rfl

@[simp] theorem currency_plus (a : Account) (n : Int) : (a.plus n).currency = a.currency := rfl

@[simp] theorem currencyCode_plus (a : Account) (n : Int) :
    (a.plus n).currencyCode = a.currencyCode := rfl

@[simp] theorem wholeBalance_plus (a : Account) (n : Int) :
    (a.plus n).wholeBalance = a.wholeBalance + n := rfl

theorem isWhole_plus (a : Account) (n : Int) : (a.plus n).IsWhole := rfl

theorem plus_plus (a : Account) (m n : Int) : (a.plus m).plus n = a.plus (m + n) := by
  rw [plus, plus, plus]
  simp only [wholeBalance, add_assoc]

theorem IsWhole.plus_zero {a : Account} (h : a.IsWhole) : a.plus 0 = a := by
  rw [plus, add_zero, ← h]

end Account

namespace Ledger

/-- Adds to the first account of every id what is due to that id. -/
def post (due : String → Int) : List Account → List Account
  | [] => []
  | a :: rest => a.plus (due a.id) :: post (Function.update due a.id 0) rest

@[simp] theorem map_id_post (due : String → Int) (accounts : List Account) :
    (post due accounts).map Account.id = accounts.map Account.id := by
  induction accounts generalizing due with
  | nil => rfl
  | cons a rest ih => rw [post, List.map_cons, ih, List.map_cons, Account.id_plus]

@[simp] theorem map_currency_post (due : String → Int) (accounts : List Account) :
    (post due accounts).map Account.currency = accounts.map Account.currency := by
  induction accounts generalizing due with
  | nil => rfl
  | cons a rest ih => rw [post, List.map_cons, ih, List.map_cons, Account.currency_plus]

theorem isWhole_of_mem_post {due : String → Int} {accounts : List Account} {a : Account}
    (h : a ∈ post due accounts) : a.IsWhole := by
  induction accounts generalizing due with
  | nil => cases h
  | cons b rest ih =>
      rw [post, List.mem_cons] at h
      rcases h with rfl | h
      · exact b.isWhole_plus _
      · exact ih h

theorem post_zero {accounts : List Account} (h : ∀ a ∈ accounts, a.IsWhole) :
    post (fun _ => 0) accounts = accounts := by
  induction accounts with
  | nil => rfl
  | cons a rest ih =>
      obtain ⟨ha, hrest⟩ := List.forall_mem_cons.mp h
      have hupdate : Function.update (fun _ : String => (0 : Int)) a.id 0 = fun _ => 0 :=
        Function.update_eq_self a.id _
      rw [post, hupdate, ih hrest, ha.plus_zero]

/-- Two postings after each other are one posting of both sums. -/
theorem post_post (due due' : String → Int) (accounts : List Account) :
    post due' (post due accounts) = post (fun id => due id + due' id) accounts := by
  induction accounts generalizing due due' with
  | nil => rfl
  | cons a rest ih =>
      -- an id that has had its due gets nothing from either posting
      have hupdate : (fun id => Function.update due a.id 0 id + Function.update due' a.id 0 id) =
          Function.update (fun id => due id + due' id) a.id 0 := by
        funext id
        by_cases hid : id = a.id
        · subst hid
          simp
        · simp [hid]
      rw [post, post, post, Account.id_plus, ih, Account.plus_plus, hupdate]

/-- Every account after a posting: the first of its id has what was due, and a later
one has nothing more. -/
theorem getElem?_post (due : String → Int) (accounts : List Account) (k : Nat) :
    (post due accounts)[k]? = accounts[k]?.map fun a =>
      a.plus (if a.id ∈ (accounts.take k).map Account.id then 0 else due a.id) := by
  induction accounts generalizing due k with
  | nil => rfl
  | cons a rest ih =>
      cases k with
      | zero => simp [post]
      | succ k =>
          rw [post, List.getElem?_cons_succ, ih, List.getElem?_cons_succ]
          refine congrArg (fun f => Option.map f rest[k]?) (funext fun b => ?_)
          rw [List.take_succ_cons, List.map_cons]
          by_cases hid : b.id = a.id
          · simp [hid]
          · simp [hid]

/-- The first account of an id is the first one after a posting. -/
theorem isFirst_post {accounts : List Account} {id : String} {a : Account}
    (h : IsFirst accounts id a) (due : String → Int) :
    IsFirst (post due accounts) id (a.plus (due id)) := by
  induction h generalizing due with
  | here hid =>
      subst hid
      exact .here rfl
  | @there a b rest id hb _ ih =>
      have hdue := ih (Function.update due b.id 0)
      rw [Function.update_of_ne hb.symm] at hdue
      exact .there hb hdue

/-! ## Writing back -/

theorem setBalance_self {accounts : List Account} {id : String} {a : Account}
    (h : IsFirst accounts id a) : setBalance accounts id a.balance = accounts := by
  induction h with
  | here hid => rw [setBalance, if_pos hid]
  | there hb _ ih => rw [setBalance, if_neg hb, ih]

/-- Writing back a changed balance posts the change. -/
theorem setBalance_eq_post {accounts : List Account} {id : String} {a : Account}
    (h : IsFirst accounts id a) (hwhole : ∀ b ∈ accounts, b.IsWhole) (n : Int) :
    setBalance accounts id (.number (.whole (a.wholeBalance + n))) =
      post (Pi.single id n) accounts := by
  -- behind the first account of the id nothing is due, before it only to others
  induction h with
  | @here a rest id hid =>
      subst hid
      have hrest := (List.forall_mem_cons.mp hwhole).2
      have hupdate : Function.update (Pi.single a.id n : String → Int) a.id 0 = fun _ => 0 := by
        rw [Pi.single, Function.update_idem]
        exact Function.update_eq_self a.id _
      rw [setBalance, if_pos rfl, post, Pi.single_eq_same, hupdate, post_zero hrest]
      rfl
  | @there a b rest id hb _ ih =>
      obtain ⟨hwb, hrest⟩ := List.forall_mem_cons.mp hwhole
      have hsingle : (Pi.single id n : String → Int) b.id = 0 := by
        rw [Pi.single_apply, if_neg hb]
      have hupdate : Function.update (Pi.single id n : String → Int) b.id 0 =
          Pi.single id n := by
        rw [← hsingle]
        exact Function.update_eq_self b.id _
      rw [setBalance, if_neg hb, post, hsingle, hupdate, ih hrest, hwb.plus_zero]

/-! ## Sums -/

/-- The sum of the balances in the currencies of a given kind. -/
def sumWhere (keep : String → Bool) (accounts : List Account) : Int :=
  ((accounts.filter fun a => keep a.currencyCode).map Account.wholeBalance).sum

theorem sumWhere_cons (keep : String → Bool) (a : Account) (rest : List Account) :
    sumWhere keep (a :: rest) =
      (if keep a.currencyCode then a.wholeBalance else 0) + sumWhere keep rest := by
  rw [sumWhere, List.filter_cons]
  split
  · rw [List.map_cons, List.sum_cons]
    rfl
  · rw [zero_add]
    rfl

/-- What is due to one id reaches the sum of the currency of its first account. -/
theorem sumWhere_post_single {accounts : List Account} {id : String} {a : Account}
    (h : IsFirst accounts id a) (hwhole : ∀ b ∈ accounts, b.IsWhole) (keep : String → Bool)
    (n : Int) :
    sumWhere keep (post (Pi.single id n) accounts) =
      sumWhere keep accounts + if keep a.currencyCode then n else 0 := by
  rw [← setBalance_eq_post h hwhole]
  clear hwhole
  induction h with
  | @here a rest id hid =>
      rw [setBalance, if_pos hid, sumWhere_cons, sumWhere_cons]
      show (if keep a.currencyCode then a.wholeBalance + n else 0) + _ = _
      split <;> ring
  | there hb _ ih => rw [setBalance, if_neg hb, sumWhere_cons, ih, sumWhere_cons, add_assoc]

end Ledger

end Remittance
