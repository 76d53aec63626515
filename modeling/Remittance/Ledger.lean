import Remittance.Process

/-!
# Ledgers

A list of accounts that lives through many instructions. After each one, every
balance that its verdict reports is written back to the first account with that id.
The list and the instructions come as they were submitted. Their shape is checked
when an instruction is processed, so without instructions it never is.
-/

namespace Remittance.Ledger

/-- Gives the first account with an id a new balance. -/
def setBalance (accounts : List Account) (id : String) (balance : Value) : List Account :=
  match accounts with
  | [] => []
  | a :: rest =>
    if a.id = id then { a with balance } :: rest else a :: setBalance rest id balance

/-- Writes every reported balance back. -/
def record (accounts : List Account) (snapshots : List Snapshot) : List Account :=
  snapshots.foldl (fun accounts s => setBalance accounts s.id (.number s.balance)) accounts

/-- A line of the book: the verdict on an instruction, and the accounts after it. -/
structure Entry where
  verdict : Verdict
  accounts : List Account

section

variable [Validator]

/-- Processes one instruction against a list of accounts and records its verdict.
There is no line when one of them has the wrong shape. -/
def step (accounts instruction : Value) (today : Date) : Except Failure Entry := do
  let request ← readRequest (Request.payload accounts instruction)
  let verdict ← evaluate request.instruction request.accounts today
  return ⟨verdict, record request.accounts verdict.accounts⟩

/-- Processes instructions in turn, each against the accounts that the one before it
left behind. The first refusal ends the run and takes the lines before it along. -/
def run (accounts : Value) (instructions : List Value) (today : Date) :
    Except Failure (List Entry) :=
  match instructions with
  | [] => .ok []
  | instruction :: rest => do
    let entry ← step accounts instruction today
    let entries ← run (Request.accountsValue entry.accounts) rest today
    return entry :: entries

/-- A line holds the verdict on the payload made of the accounts and the instruction. -/
theorem map_verdict_step (accounts instruction : Value) (today : Date) :
    (step accounts instruction today).map Entry.verdict =
      process (Request.payload accounts instruction) today := by
  unfold step process
  cases readRequest (Request.payload accounts instruction) with
  | error failure => rfl
  | ok request =>
    simp only [bind, Except.bind]
    cases evaluate request.instruction request.accounts today with
    | error failure => rfl
    | ok verdict => rfl

end

end Remittance.Ledger
