import ReaderTrace.Number.Decimal
import ReaderTrace.Slot
import ReaderTrace.Value

/-!
What can go wrong, by cause, and the wording of each.

A run of the library ends early either because of a fault of its own or
because a client's function threw. What a client throws is never looked at and
never reworded, so it is kept apart from the faults.
-/

namespace ReaderTrace

/-- The conditions that the library asserts, each with the names that its
wording needs. -/
inductive Assertion
  | loggingInstalled (objectFile : String)
  | loggingNotInstalled (objectFile : String)
  | loggingInstalledWhileOff (objectFile : String)
  | noTableToLog (objectFile : String)
  | noTable (objectFile : String)
  | notAttached (objectFile : String)
  | notOwned (objectFile space : String)
  | spaceDisposed (space : String)
deriving DecidableEq

def Assertion.text : Assertion → String
  | .loggingInstalled objectFile =>
      "Symfile debug logging is already installed for " ++ objectFile
  | .loggingNotInstalled objectFile =>
      "Symfile debug logging is not installed for " ++ objectFile
  | .loggingInstalledWhileOff objectFile =>
      "Symfile debug logging is installed for " ++ objectFile ++ " while disabled"
  | .noTableToLog objectFile => objectFile ++ " has no symbol functions yet"
  | .noTable objectFile => objectFile ++ " has no symbol functions"
  | .notAttached objectFile => objectFile ++ " was not created by createObjfile()"
  | .notOwned objectFile space => objectFile ++ " does not belong to " ++ space
  | .spaceDisposed space => space ++ " has been disposed"

/-- The value that a setting was given. Only the environment can hold one that
is not text. -/
inductive SettingValue
  | text (value : String)
  | number (value : Double)
deriving DecidableEq

def SettingValue.describe : SettingValue → String
  | .text value => value
  | .number value => Decimal.render value

inductive Fault
  | assertion (cause : Assertion)
  | invalidSetting (setting : String) (value : SettingValue)
  | unsupported (slot : Slot) (objectFile : String)
  /-- An assignment to a table that cannot change. -/
  | frozenTable
  /-- A quick function handed back something without the parts that are read. -/
  | malformedAnswer
deriving DecidableEq

def Fault.message : Fault → String
  | .assertion cause => "Wrong assertion encountered: \"" ++ cause.text ++ "\""
  | .invalidSetting setting value =>
      "\"on\" or \"off\" expected for " ++ setting ++ ", got \"" ++ value.describe ++ "\"."
  | .unsupported slot objectFile =>
      "The symbol reader of " ++ objectFile ++ " does not support \"" ++ slot.name ++ "\""
  | .frozenTable => "the table is frozen"
  | .malformedAnswer => "the answer lacks a part that is read"

/-- What ends a run early. -/
inductive Raised
  | fault (fault : Fault)
  | thrown (value : Value)
deriving DecidableEq

end ReaderTrace
