/-!
# Settings

The settings of the service come from named variables. Names are recognised in any
case. Once read they are kept until they are cleared; a reading that fails is not
kept.
-/

namespace Remittance.Service

structure Settings where
  appName : String := "Payment Instruction Engine"
  debug : Bool := false
  logLevel : String := "INFO"
  apiPrefix : String := ""
  deriving DecidableEq

namespace Settings

/-- The variable `debug` holds no truth value. -/
inductive Fault where
  | debugNotBoolean
  deriving DecidableEq

/-- The spellings of true and of false, in small letters. -/
def truthWords : List (String × Bool) :=
  [("1", true), ("on", true), ("t", true), ("true", true), ("y", true), ("yes", true),
    ("0", false), ("off", false), ("f", false), ("false", false), ("n", false), ("no", false)]

/-- The truth value that a word spells in any case. -/
def truthValue? (word : String) : Option Bool :=
  truthWords.lookup word.toLower

/-- The value of a variable; of several spellings of its name the last one counts. -/
def setting? (env : List (String × String)) (name : String) : Option String :=
  (env.reverse.find? (·.1.toLower == name)).map (·.2)

/-- Reads the settings; a variable that is not set leaves its default. -/
def read (env : List (String × String)) : Except Fault Settings :=
  let base : Settings := {}
  let debug :=
    match setting? env "debug" with
    | none => some base.debug
    | some word => truthValue? word
  match debug with
  | none => .error .debugNotBoolean
  | some debug => .ok {
      appName := (setting? env "app_name").getD base.appName
      debug
      logLevel := (setting? env "log_level").getD base.logLevel
      apiPrefix := (setting? env "api_prefix").getD base.apiPrefix }

/-! ## Keeping settings -/

/-- The variables, and the settings that are kept. -/
structure Cache where
  env : List (String × String) := []
  kept : Option Settings := none

/-- What happens before a reading: the variables may be replaced, and what is kept
may be cleared. -/
structure Step where
  env : Option (List (String × String)) := none
  clear : Bool := false

def Cache.step (cache : Cache) (s : Step) : Except Fault Settings × Cache :=
  let env := s.env.getD cache.env
  match if s.clear then none else cache.kept with
  | some kept => (.ok kept, ⟨env, some kept⟩)
  | none =>
    match read env with
    | .ok settings => (.ok settings, ⟨env, some settings⟩)
    | .error fault => (.error fault, ⟨env, none⟩)

def Cache.steps (cache : Cache) : List Step → List (Except Fault Settings)
  | [] => []
  | s :: rest =>
    let (answer, next) := cache.step s
    answer :: next.steps rest

end Settings

end Remittance.Service
