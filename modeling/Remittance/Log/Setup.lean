import Remittance.Text.Uppercase

/-!
# Setting up the log

The log of a program has a level and handlers, each with the format of its lines.
It is set up once; later attempts change nothing.
-/

namespace Remittance.Log

/-- The log that all others pass their records to. -/
structure Root where
  level : Nat := 30
  handlers : List String := []
  deriving DecidableEq

namespace Root

/-- The format of a line. -/
def lineFormat : String := "%(asctime)s | %(levelname)s | %(name)s | %(message)s"

def levels : List (String × Nat) :=
  [("CRITICAL", 50), ("FATAL", 50), ("ERROR", 40), ("WARNING", 30), ("WARN", 30),
    ("INFO", 20), ("DEBUG", 10), ("NOTSET", 0)]

/-- The rank of a level named in any case; an unknown name means the rank of
`INFO`. -/
def levelOf (name : String) : Nat :=
  (levels.lookup (Text.upper name)).getD 20

/-- Sets up a log that has no handlers yet. -/
def setup (root : Root) (levelName : String) : Root :=
  if root.handlers.isEmpty then ⟨levelOf levelName, [lineFormat]⟩ else root

def setups (root : Root) : List String → List Root
  | [] => []
  | name :: names =>
    let next := root.setup name
    next :: next.setups names

end Root

end Remittance.Log
