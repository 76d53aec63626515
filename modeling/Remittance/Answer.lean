import Remittance.Envelope
import Remittance.Json.Writer

/-!
# Answers

The record in which an envelope travels. Members stand in a fixed order, and what
is unknown is null.
-/

namespace Remittance

def Value.ofText? (s : Option String) : Value :=
  (s.map Value.text).getD .null

def Snapshot.toValue (s : Snapshot) : Value :=
  .object [
    ("id", .text s.id),
    ("balance", .number s.balance),
    ("balance_before", .number s.balanceBefore),
    ("currency", .text s.currency)]

def Verdict.toValue (v : Verdict) : Value :=
  .object [
    ("type", .ofText? (v.kind.map Instruction.Kind.word)),
    ("amount", (v.amount.map fun n => Value.number (.whole n)).getD .null),
    ("currency", .ofText? v.currency),
    ("debit_account", .ofText? v.debitAccount),
    ("credit_account", .ofText? v.creditAccount),
    ("execute_by", .ofText? v.executeBy),
    ("status", .text v.status.text),
    ("status_reason", .text v.reason),
    ("status_code", .text v.code.text),
    ("accounts", .list (v.accounts.map Snapshot.toValue))]

def Envelope.toValue (e : Envelope) : Value :=
  .object [
    ("status", .number (.whole e.status)),
    ("message", .text e.message),
    ("data", e.data.toValue)]

end Remittance
