import Remittance.Account.Basic

/-!
# Snapshots

What a verdict reports of an account: its balance, and what the balance was before.
A transfer is applied to snapshots and leaves the accounts alone. It always starts
from the balance before, so that applying it again changes nothing.
-/

namespace Remittance

/-- An account at the time of a verdict. -/
structure Snapshot where
  id : String
  balance : Number
  balanceBefore : Number
  currency : String
  deriving DecidableEq

namespace Snapshot

/-- What a snapshot should be. Its texts come from the program and always are texts. -/
def schema : Schema (String × (Int ⊕ Binary64) × (Int ⊕ Binary64) × String × Unit) :=
  .record .snapshot
    (.cons "id" .text (.cons "balance" Number.schema
      (.cons "balance_before" Number.schema (.cons "currency" .text .nil))))

def ofData : String × (Int ⊕ Binary64) × (Int ⊕ Binary64) × String × Unit → Snapshot
  | (id, balance, balanceBefore, currency, ()) =>
    ⟨id, .ofSum balance, .ofSum balanceBefore, currency⟩

section

variable [Validator]

def check (id : String) (balance balanceBefore : Value) (currency : String) : Checked Snapshot :=
  (Validator.check schema (.object [("id", .text id), ("balance", balance),
    ("balance_before", balanceBefore), ("currency", .text currency)])).map ofData

/-- The snapshot of an account that nothing has happened to. -/
def ofAccount (a : Account) : Checked Snapshot :=
  check a.id a.balance a.balance a.currencyCode

end

/-- The snapshot after a transfer: the account that pays loses the amount, the
account that is paid gains it. There is none when the amount lies past the numbers
that it would have to become. -/
def transfer? (debitId creditId : String) (amount : Int) (s : Snapshot) : Option Snapshot :=
  if s.id = debitId then
    (s.balanceBefore.minus? amount).map fun balance => { s with balance }
  else if s.id = creditId then
    (s.balanceBefore.plus? amount).map fun balance => { s with balance }
  else some s

def transferAll? (debitId creditId : String) (amount : Int) (snapshots : List Snapshot) :
    Option (List Snapshot) :=
  snapshots.mapM (transfer? debitId creditId amount)

end Snapshot

/-- The accounts that an instruction is about, as far as they are listed, and the
snapshots that report them. -/
structure Selection where
  debit : Option Account
  credit : Option Account
  snapshots : List Snapshot

/-- Selects the first account with each id. The credit account is reported only
when its id differs from the debit id, so that no account is reported twice. -/
def Selection.ofIds [Validator] (accounts : List Account) (debitId creditId : Option String) :
    Checked Selection := do
  let debit := Account.find? accounts debitId
  let credit := Account.find? accounts creditId
  let debitSnapshot ← debit.mapM Snapshot.ofAccount
  let creditSnapshot ← (credit.filter fun a => some a.id != debitId).mapM Snapshot.ofAccount
  return ⟨debit, credit, debitSnapshot.toList ++ creditSnapshot.toList⟩

end Remittance
