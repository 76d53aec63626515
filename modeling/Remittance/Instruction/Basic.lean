import Remittance.Instruction.Field
import Remittance.Instruction.Keyword
import Remittance.Instruction.Token

/-!
# Instructions

What a well-formed sentence asks for: so much of one currency from one account to
another, now or on a date. A sentence is read in stages, keywords, date, amount,
currency and accounts, and the first stage that fails names its fault.
-/

namespace Remittance

/-- A payment that a sentence asks for. -/
structure Instruction where
  kind : Instruction.Kind
  amount : Nat
  currency : Currency
  debitAccount : String
  creditAccount : String
  executeBy : Option Date
  deriving DecidableEq

namespace Instruction

/-- Reads the tokens of a sentence of the given kind. -/
def ofTokens (kind : Kind) (tokens : List String) : Except Fault Instruction := do
  checkKeywords kind.slots (tokens.map Text.upper)
  let fields := Fields.ofTokens kind tokens
  let executeBy ← readDate fields
  let amount ← readAmount fields.amount
  let currency ← readCurrency fields.currency
  let (debitAccount, creditAccount) ← readAccounts fields.payer fields.payee
  return { kind, amount, currency, debitAccount, creditAccount, executeBy }

def kindOf? (tokens : List String) : Option Kind :=
  Kind.detect? (tokens.map Text.upper)

/-- Reads a sentence; there is nothing to read when its kind is not recognised. -/
def ofText? (text : String) : Option (Except Fault Instruction) :=
  let tokens := tokens text
  (kindOf? tokens).map fun kind => ofTokens kind tokens

end Instruction

end Remittance
