import Remittance.Calendar
import Remittance.Code
import Remittance.Text.EditDistance

/-!
# Faults of a sentence

Every way in which a sentence of a recognised kind can fail to be an instruction,
each with its code and with the reason shown to the customer.
-/

namespace Remittance.Instruction

/-- The first thing that keeps a text from being a row of digits. -/
inductive DigitsFault where
  | empty
  | minus
  | point
  | character (c : Char)
  deriving DecidableEq

def DigitsFault.message : DigitsFault → String
  | .empty => "Amount must not be empty"
  | .minus => "Amount cannot contain negative sign"
  | .point => "Amount cannot contain decimal point"
  | .character c => "Invalid character '" ++ c.toString ++ "' in amount"

/-- What keeps a token from being an amount: its characters, its length, or its
value, which is zero or past the largest double-precision number. -/
inductive AmountFault where
  | digits (fault : DigitsFault)
  | tooLong
  | outOfRange
  deriving DecidableEq

/-- What keeps a token from being an account id. -/
inductive IdFault where
  | empty
  | character (c : Char)
  deriving DecidableEq

def IdFault.message : IdFault → String
  | .empty => "Account id must not be empty"
  | .character c => "Invalid character '" ++ c.toString ++ "' in account id"

/-- The account that pays and the account that is paid. -/
inductive Side where
  | payer
  | payee
  deriving DecidableEq

def Side.word : Side → String
  | .payer => "from"
  | .payee => "to"

/-- A keyword and the token found in its place. -/
structure Mismatch where
  expected : String
  found : String
  deriving DecidableEq

/-- One note on a wrong keyword, with a suggestion when the token is a near miss. -/
def Mismatch.note (m : Mismatch) : String :=
  "expected '" ++ m.expected ++ "' but found '" ++ m.found ++ "'" ++
    if Text.isNear m.expected m.found then " (did you mean '" ++ m.expected ++ "'?)" else ""

/-- Why a sentence of a recognised kind is no instruction. -/
inductive Fault where
  | missingKeywords (keywords : List String)
  | wrongKeywords (mismatches : List Mismatch)
  | missingOn
  | dateWithoutOn
  | onWithoutDate
  | date (fault : Date.Fault)
  | amount (fault : AmountFault)
  | currency (found : String)
  | account (side : Side) (fault : IdFault)
  deriving DecidableEq

namespace Fault

def code : Fault → Code
  | .missingKeywords _ | .missingOn => .missingKeyword
  | .wrongKeywords _ => .invalidKeyword
  | .dateWithoutOn | .onWithoutDate | .date _ => .invalidDate
  | .amount _ => .invalidAmount
  | .currency _ => .unsupportedCurrency
  | .account _ _ => .invalidAccountId

/-- What every reason about an amount begins with. -/
def amountLead : String := "Invalid amount: amount must be a positive integer"

/-- What every reason about an unknown currency begins with. -/
def currencyLead : String := "Unsupported currency: only NGN, USD, GBP and GHS are supported"

def message : Fault → String
  | .missingKeywords keywords => "Missing keyword(s): " ++ ", ".intercalate keywords
  | .wrongKeywords mismatches =>
    "Invalid keyword(s): " ++ "; ".intercalate (mismatches.map Mismatch.note)
  | .missingOn => "Missing keyword: 'ON'"
  | .dateWithoutOn => "Date provided without 'ON' keyword: date format is YYYY-MM-DD"
  | .onWithoutDate => "No date provided after 'ON' keyword: date format is YYYY-MM-DD"
  | .date fault => fault.message
  | .amount (.digits fault) => amountLead ++ ": " ++ fault.message
  | .amount .tooLong => amountLead ++ ": Amount is too large"
  | .amount .outOfRange => amountLead
  | .currency found => currencyLead ++ ", but found '" ++ found ++ "'"
  | .account side fault => "Invalid account id (" ++ side.word ++ ": " ++ fault.message ++ ")"

/-- No fault of a sentence carries the code of a sentence without a kind, nor one
of a verdict that passed. -/
theorem code_ne (f : Fault) : f.code ≠ .malformed ∧ f.code ≠ .success ∧ f.code ≠ .pending := by
  cases f <;> simp [code]

end Fault

end Remittance.Instruction
