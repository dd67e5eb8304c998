import ReaderTrace.Fault
import ReaderTrace.Setting.Boolean

/-!
The two ways in which a setting reaches the library: as the text of a command,
and as a variable of the environment.

They read the same grammar and differ on blank text alone, which turns a
command's setting on and leaves the environment's off. The environment is
checked against a schema, by means that the library does not have itself; of a
check that fails nothing is kept, and the error is made from the environment.
-/

namespace ReaderTrace

namespace Setting

def parse (name text : String) : Except Fault Bool :=
  match readBoolean? text with
  | some value => .ok value
  | none => .error (.invalidSetting name (.text text))

def debugName : String :=
  "debug symfile"

end Setting

/-- The value of an environment variable. Text is the rule; the other two come
from environments that were put together by hand. -/
inductive EnvironmentValue
  | text (value : String)
  | null
  | number (value : Double)
deriving DecidableEq

abbrev Environment :=
  List (String × EnvironmentValue)

/-! ### Schemas -/

/-- A schema for environments: under `name` there is text or nothing, and
`transform` makes a value of it or raises an issue. -/
structure EnvironmentSchema where
  name : String
  transform : Option String → Option Bool

/-- A check of an environment against a schema: the value that was made, or
`none` if there was an issue. -/
abbrev EnvironmentCheck :=
  EnvironmentSchema → Environment → Option Bool

/-- The check in use. A value that is not text is an issue, and other names are
passed over. -/
def EnvironmentSchema.check : EnvironmentCheck := fun schema environment =>
  match environment.lookup schema.name with
  | none => schema.transform none
  | some (.text text) => schema.transform (some text)
  | some .null => none
  | some (.number _) => none

/-! ### The configuration -/

structure Configuration where
  debug : Bool
deriving DecidableEq

namespace Configuration

def variableName : String :=
  "SYMFILE_TRACE_DEBUG"

/-- What the text of the variable means, if it means anything. A missing
variable and blank text mean off. -/
def ofText? : Option String → Option Bool
  | none => some false
  | some text =>
      if (Blank.trim text.toList).isEmpty then some false else Setting.readBoolean? text

def schema : EnvironmentSchema :=
  { name := variableName, transform := ofText? }

/-- The value that an error about the variable shows. -/
def rawValue (environment : Environment) : SettingValue :=
  match environment.lookup variableName with
  | some (.text text) => .text text
  | some (.number value) => .number value
  | some .null => .text ""
  | none => .text ""

/-- Reads the configuration from an environment with the given check. -/
def loadWith (check : EnvironmentCheck) (environment : Environment) :
    Except Fault Configuration :=
  match check schema environment with
  | some value => .ok { debug := value }
  | none => .error (.invalidSetting variableName (rawValue environment))

def load (environment : Environment) : Except Fault Configuration :=
  loadWith EnvironmentSchema.check environment

/-- Reads the given environment, or the environment of the process when none
is given. -/
def loadDefault (given : Option Environment) (process : Environment) :
    Except Fault Configuration :=
  load (given.getD process)

end Configuration

end ReaderTrace
