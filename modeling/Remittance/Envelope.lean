import Remittance.Verdict

/-!
# Envelopes

A verdict with the status of the answer that carries it and a message for the
customer. A refusal for want of money names the account, what it holds and what was
needed.
-/

namespace Remittance

/-- A verdict on its way to the customer. -/
structure Envelope where
  status : Nat
  message : String
  data : Verdict

namespace Envelope

/-- The text, or another one when there is none. -/
def orElse (text default : String) : String :=
  if text.isEmpty then default else text

def fieldText (field : Option String) : String :=
  field.getD (Value.display .null)

def failureMessage (v : Verdict) : String :=
  let plain := orElse v.reason "Instruction validation failed"
  if v.code = .insufficientFunds then
    match v.accounts.find? fun s => some s.id == v.debitAccount with
    | some debit =>
      v.reason ++ " in account " ++ debit.id ++ ": has " ++ debit.balance.amountText ++ " " ++
        debit.currency ++ ", needs " ++ fieldText (v.amount.map wholeText) ++ " " ++
        fieldText v.currency
    | none => plain
  else plain

def ofVerdict (v : Verdict) : Envelope :=
  match v.status with
  | .failed => ⟨400, failureMessage v, v⟩
  | .pending => ⟨200, orElse v.reason "Instruction scheduled for execution", v⟩
  | .successful => ⟨200, orElse v.reason "Instruction executed successfully", v⟩

end Envelope

end Remittance
