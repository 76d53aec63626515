import Remittance.Account.Basic
import Remittance.Code
import Remittance.Instruction.Basic

/-!
# Business rules

The rules that a payment must keep once its sentence has been read, and when it is
due. Each rule refuses with a reason of its own.
-/

namespace Remittance

/-- Why a rule refuses a payment. -/
inductive Refusal where
  | neitherFound
  | debitNotFound (id : String)
  | creditNotFound (id : String)
  | currenciesDiffer (debit credit : String)
  | currencyUnsupported (code : String)
  | currencyMismatch (instruction account : String)
  | sameAccount (id : String)
  | insufficientFunds (available : Value) (required : Int)

namespace Refusal

def code : Refusal → Code
  | .neitherFound | .debitNotFound _ | .creditNotFound _ => .accountNotFound
  | .currenciesDiffer _ _ | .currencyMismatch _ _ => .currencyMismatch
  | .currencyUnsupported _ => .unsupportedCurrency
  | .sameAccount _ => .sameAccount
  | .insufficientFunds _ _ => .insufficientFunds

/-- The reason that a customer reads. There is none when it would hold an integer that
is too long to be written. -/
def message? : Refusal → Option String
  | .neitherFound => some "Account not found"
  | .debitNotFound id => some ("Account not found: debit account " ++ id ++ " not found")
  | .creditNotFound id => some ("Account not found: credit account " ++ id ++ " not found")
  | .currenciesDiffer debit credit =>
    some ("Currency mismatch: debit account is " ++ debit ++ ", credit account is " ++ credit)
  | .currencyUnsupported code =>
    some (Instruction.Fault.currencyLead ++ ", but accounts are in '" ++ code ++ "'")
  | .currencyMismatch instruction account =>
    some ("Currency mismatch: Instruction currency " ++ instruction ++
      " does not match debit account currency " ++ account)
  | .sameAccount id =>
    some ("Debit and credit accounts cannot be the same: both accounts are " ++ id)
  | .insufficientFunds available required => do
    let available ← available.shown?
    let required ← wholeText? required
    return "Insufficient funds: available balance is " ++ available ++
      " and required is " ++ required

/-- A refusal is a failure of its own kind, not one of the sentence. -/
theorem code_ne (r : Refusal) : r.code ≠ .malformed ∧ r.code ≠ .success ∧ r.code ≠ .pending := by
  cases r <;> simp [code]

end Refusal

namespace Rule

/-- Both accounts must be listed. -/
def bothFound (debit credit : Option Account) (debitId creditId : String) :
    Except Refusal (Account × Account) :=
  match debit, credit with
  | some debit, some credit => .ok (debit, credit)
  | none, none => .error .neitherFound
  | none, some _ => .error (.debitNotFound debitId)
  | some _, none => .error (.creditNotFound creditId)

/-- Both accounts and the instruction must share one currency of settlement. -/
def oneCurrency (debit credit : Account) (currency : String) : Except Refusal Unit :=
  if debit.currencyCode ≠ credit.currencyCode then
    .error (.currenciesDiffer debit.currencyCode credit.currencyCode)
  else if (Currency.ofCode? debit.currencyCode).isNone then
    .error (.currencyUnsupported debit.currencyCode)
  else if currency ≠ debit.currencyCode then
    .error (.currencyMismatch currency debit.currencyCode)
  else .ok ()

/-- The two accounts must differ. -/
def distinct (debitId creditId : String) : Except Refusal Unit :=
  if debitId = creditId then .error (.sameAccount debitId) else .ok ()

/-- The account that pays must hold the amount. -/
def enoughFunds (debit : Account) (amount : Int) : Except Refusal Unit :=
  if debit.balance.reaches amount then .ok ()
  else .error (.insufficientFunds debit.balance amount)

/-- All rules in order: existence, currency, distinctness, funds. -/
def check (instruction : Instruction) (debit credit : Option Account) : Except Refusal Unit := do
  let (debit, credit) ← bothFound debit credit instruction.debitAccount instruction.creditAccount
  oneCurrency debit credit instruction.currency.code
  distinct instruction.debitAccount instruction.creditAccount
  enoughFunds debit instruction.amount

end Rule

/-- When a payment that keeps the rules takes place. -/
inductive Timing where
  | now
  | later
  deriving DecidableEq

namespace Timing

/-- A payment waits as long as its date lies after today. Dates of one width are
compared as texts. -/
def ofDate (executeBy : Option String) (today : Date) : Timing :=
  if executeBy.any fun date => today.text < date then .later else .now

def status : Timing → Status
  | .now => .successful
  | .later => .pending

def code : Timing → Code
  | .now => .success
  | .later => .pending

def message : Timing → String
  | .now => "Transaction executed successfully"
  | .later => "Transaction scheduled for future execution"

end Timing

end Remittance
