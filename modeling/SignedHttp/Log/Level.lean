import SignedHttp.Log.Value
import SignedHttp.Payload
import SignedHttp.Text.Case

/-!
# Log levels

A record is written when its level reaches both the logger's effective level and the
handler's. The two are configured together, by the name of a level in any letter case;
a name that denotes no level means `INFO`, except that two names denote something else
and are refused. A logger at level zero takes the level of the root logger, `WARNING`.

A record can also be given another value for its level. Its name is then found as that of a
number is, except that the name of a level stands for its number.

Key definitions: `Levels`, `Levels.configure`, `Levels.admits`, `levelName?`, `levelLabel`.
-/

namespace SignedHttp.Log

def namedLevels : List (Nat × String) :=
  [(0, "NOTSET"), (10, "DEBUG"), (20, "INFO"), (30, "WARNING"), (40, "ERROR"), (50, "CRITICAL")]

def errorLevel : Int := 40

/-- What a level is called. The number of an unnamed level must be short enough to write. -/
def levelName? (level : Int) : Option String :=
  match namedLevels.find? fun (n, _) => Int.ofNat n = level with
  | some (_, name) => some name
  | none => (Text.Decimal.numeral? level).map ("Level " ++ ·)

def configurable : List (String × Nat) :=
  [("DEBUG", 10), ("INFO", 20), ("WARN", 30), ("WARNING", 30), ("ERROR", 40), ("FATAL", 50),
    ("CRITICAL", 50), ("NOTSET", 0)]

/-- What a level is called that can be any value. -/
def levelLabel : Json → Except Fault Json
  | .number n =>
    match levelName? n with
    | some name => .ok (.string name)
    | none => .error .longNumeral
  | .bool false => .ok (.string ((levelName? 0).getD ""))
  | .string s =>
    match configurable.lookup s with
    | some n => .ok (.number (.ofNat n))
    | none => .ok (.string ("Level " ++ s))
  | level =>
    if level.canBeKey then
      (fun s => .ofPoints (Text.points "Level ".toList ++ s)) <$> level.shown
    else .error (.unusableKey level.kind)

def defaultName : String := "INFO"

/-- The level of every name that denotes none. -/
def defaultLevel : Nat := 20

/-- A name that denotes the format of records. -/
def formatName : String := "BASIC_FORMAT"

/-- A name that denotes the styles in which formats of records are written. -/
def stylesName : String := "_STYLES"

/-- The level that a name chooses. Bytes have letters, but name no level. -/
def chooseLevel : Payload → Except Fault Nat
  | .text name =>
    let name := Text.upper name
    if name = formatName then .error .formatAsLevel
    else if name = stylesName then .error .stylesAsLevel
    else .ok ((configurable.lookup name).getD defaultLevel)
  | .json (.points _) => .ok defaultLevel
  | .bytes b => .error (.wrongPart (.nameNotText (Payload.bytes b).kind))
  | .buffer b => .error (.wrongPart (.nameNotText (Payload.buffer b).kind))
  | name => .error (.unnamedLevel name.fullKind)

/-- The levels of the package's logger and of its handler. -/
structure Levels where
  logger : Nat
  handler : Nat
deriving DecidableEq, Repr

namespace Levels

def initial : Levels := ⟨defaultLevel, defaultLevel⟩

def configure (name : Payload) : Except Fault Levels :=
  (fun level => ⟨level, level⟩) <$> chooseLevel name

def rootLevel : Nat := 30

def effective (levels : Levels) : Nat :=
  if levels.logger = 0 then rootLevel else levels.logger

def enabled (levels : Levels) (level : Int) : Bool :=
  .ofNat levels.effective ≤ level

def admits (levels : Levels) (level : Int) : Bool :=
  levels.enabled level && .ofNat levels.handler ≤ level

end Levels

end SignedHttp.Log
