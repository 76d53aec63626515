/-!
# Status and code of a verdict

The three ends of an instruction, and the code that tells a program how it got
there. Each has one fixed spelling.
-/

namespace Remittance

inductive Status where
  | failed
  | pending
  | successful
  deriving DecidableEq

def Status.text : Status → String
  | .failed => "failed"
  | .pending => "pending"
  | .successful => "successful"

def Status.ofText? (s : String) : Option Status :=
  [Status.failed, .pending, .successful].find? (·.text == s)

/-- What a verdict rests on: a success, a date that lies ahead, a business rule
that refused, or a part of the sentence that could not be read. -/
inductive Code where
  | success
  | pending
  | insufficientFunds
  | sameAccount
  | accountNotFound
  | invalidAccountId
  | currencyMismatch
  | unsupportedCurrency
  | invalidDate
  | invalidAmount
  | missingKeyword
  | invalidKeyword
  | malformed
  deriving DecidableEq

def Code.text : Code → String
  | .success => "AP00"
  | .pending => "AP02"
  | .insufficientFunds => "AC01"
  | .sameAccount => "AC02"
  | .accountNotFound => "AC03"
  | .invalidAccountId => "AC04"
  | .currencyMismatch => "CU01"
  | .unsupportedCurrency => "CU02"
  | .invalidDate => "DT01"
  | .invalidAmount => "AM01"
  | .missingKeyword => "SY01"
  | .invalidKeyword => "SY02"
  | .malformed => "SY03"

theorem Code.text_injective {a b : Code} (h : a.text = b.text) : a = b := by
  revert h
  cases a <;> cases b <;> simp [Code.text]

end Remittance
