import Remittance.Currency
import Remittance.Instruction.Fault
import Remittance.Instruction.Kind
import Remittance.Number.Numeral

/-!
# Fields of a sentence

The tokens that stand at the places of the amount, the currency, the two account
ids and the date, and what each must look like.
-/

namespace Remittance.Instruction

open Text

/-! ## Places -/

/-- The tokens at the places of the fields, and the number of tokens in all. -/
structure Fields where
  amount : Option String
  currency : Option String
  payer : Option String
  payee : Option String
  on : Option String
  date : Option String
  count : Nat
  deriving DecidableEq

def onIndex : Nat := 11

def dateIndex : Nat := 12

def Fields.ofTokens (kind : Kind) (tokens : List String) : Fields where
  amount := tokens[1]?
  currency := tokens[2]?
  payer := tokens[kind.fromIndex]?
  payee := tokens[kind.toIndex]?
  on := tokens[onIndex]?
  date := tokens[dateIndex]?
  count := tokens.length

/-- The word that announces a date stands in its place, in any case. -/
def Fields.hasOn (fields : Fields) : Bool :=
  fields.on.any fun token => upper token == "ON"

/-! ## Amount -/

/-- Why a character is no digit of an amount. -/
def DigitsFault.ofChar (c : Char) : DigitsFault :=
  if c = '-' then .minus else if c = '.' then .point else .character c

/-- Why a text is no row of digits; a missing text counts as an empty one. -/
def digitsFault? (token : Option String) : Option DigitsFault :=
  match (token.getD "").toList with
  | [] => some .empty
  | cs => (cs.find? (!·.isDigit)).map DigitsFault.ofChar

/-- Reads an amount: a positive whole number that a double-precision number can
come near to. -/
def readAmount (token : Option String) : Except Fault Nat :=
  match digitsFault? token with
  | some fault => .error (.amount (.digits fault))
  | none =>
    let cs := (token.getD "").toList
    if Numeral.maxDigits < cs.length then .error (.amount .tooLong)
    else
      let amount := Nat.ofDigitChars 10 cs 0
      if amount = 0 ∨ Binary64.largest < amount then .error (.amount .outOfRange)
      else .ok amount

/-! ## Currency -/

/-- Reads a currency of settlement. -/
def readCurrency (token : Option String) : Except Fault Currency :=
  match Currency.read? token with
  | some currency => .ok currency
  | none => .error (.currency (Currency.normalise token))

/-! ## Account ids -/

def isIdChar (c : Char) : Bool :=
  c.isDigit || c.isUpper || c.isLower || c == '-' || c == '.' || c == '@'

/-- Why a text is no account id; a missing text counts as an empty one. -/
def idFault? (token : Option String) : Option IdFault :=
  match (token.getD "").toList with
  | [] => some .empty
  | cs => (cs.find? (!isIdChar ·)).map IdFault.character

/-- Reads one account id, in the case in which it is written. -/
def readId (side : Side) (token : Option String) : Except Fault String :=
  match idFault? token with
  | some fault => .error (.account side fault)
  | none => .ok (token.getD "")

def readAccounts (payer payee : Option String) : Except Fault (String × String) := do
  let debit ← readId .payer payer
  let credit ← readId .payee payee
  return (debit, credit)

/-! ## Date -/

/-- A token that has the outer shape of a date. -/
def looksLikeDate (token : Option String) : Bool :=
  token.any fun s => Date.isShaped s.toList

/-- Reads the date on which the money is to move. A sentence that ends before the
date has none; a longer one must announce it. -/
def readDate (fields : Fields) : Except Fault (Option Date) :=
  if fields.count < dateIndex then .ok none
  else if fields.hasOn then
    match fields.date with
    | none => .error .onWithoutDate
    | some token =>
      match Date.ofText token with
      | .ok date => .ok (some date)
      | .error fault => .error (.date fault)
  else if looksLikeDate fields.date || looksLikeDate fields.on then .error .dateWithoutOn
  else .error .missingOn

end Remittance.Instruction
