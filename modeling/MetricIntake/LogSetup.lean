import MetricIntake.Named
import MetricIntake.Text.Case
import MetricIntake.Text.Quoted

/-!
# Log setup

Which records are written, and where to: `LogSetup`.  `LogSetup.configure` sets it up once; while
there are handlers it changes nothing but the level of the store's client.
-/

namespace MetricIntake

/-- Where records go and which of them. -/
structure LogSetup where
  /-- The least level that is written. -/
  rootLevel : Int
  /-- The format of each handler, if it has one. -/
  handlers : List (Option String)
  /-- The least level for the store's client. -/
  storeLevel : Int
deriving DecidableEq, Repr, Inhabited

/-- A level as it is asked for. -/
inductive LevelChoice
  | number (n : Int)
  | name (s : String)
deriving DecidableEq, Repr

/-- A name that no level has. -/
structure UnknownLevel where
  name : String
deriving DecidableEq, Repr

/-- What is said about a name that no level has. -/
def UnknownLevel.message (e : UnknownLevel) : String :=
  "Unknown level: " ++ Text.quote ("Level " ++ e.name)

namespace LogSetup

/-- The level of warnings. -/
def warningLevel : Int := 30

/-- The levels that have names. -/
def namedLevels : List (String × Int) :=
  [("CRITICAL", 50), ("FATAL", 50), ("ERROR", 40), ("WARNING", warningLevel),
    ("WARN", warningLevel), ("INFO", 20), ("DEBUG", 10), ("NOTSET", 0)]

/-- The format of records. -/
def format : String := "%(asctime)s %(levelname)s [%(name)s] %(message)s"

/-- Before anything was set up: only warnings and no handlers. -/
def initial : LogSetup := { rootLevel := warningLevel, handlers := [], storeLevel := 0 }

end LogSetup

/-- The level that is asked for; names may be in any case. -/
def LevelChoice.level : LevelChoice → Except UnknownLevel Int
  | number n => .ok n
  | name s =>
    let upper := Text.upperCase s
    match Named.lookup upper LogSetup.namedLevels with
    | some n => .ok n
    | none => .error ⟨upper⟩

namespace LogSetup

/-- The level where none is asked for. -/
def defaultChoice : LevelChoice := .name "INFO"

/-- The setup with a handler and a level.  The handler stays even if the level is unknown. -/
def configure (choice : LevelChoice) (l : LogSetup) : Except UnknownLevel Unit × LogSetup :=
  if l.handlers.isEmpty then
    let handlers := [some format]
    match choice.level with
    | .ok rootLevel => (.ok (), { rootLevel, handlers, storeLevel := warningLevel })
    | .error e => (.error e, { l with handlers })
  else (.ok (), { l with storeLevel := warningLevel })

end LogSetup

end MetricIntake
