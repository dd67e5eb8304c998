import ReaderTrace.Script.Run

/-!
The questions that can be put to the library, each answered on its own.

A question about the texts of values, about records or about settings needs no
objects of the library; a script runs on a fresh one.
-/

namespace ReaderTrace

open Script

inductive Query
  | constants
  | render (values : List Literal)
  | hexadecimal (values : List Literal)
  | addresses (values : List Literal)
  | callRecord (label name objectFile : String) (arguments : List String)
  | resultRecord (label name value : String)
  | readBooleans (texts : List String)
  | parseSetting (name text : String)
  | loadConfiguration (environment : Option Environment) (processValue : Option String)
  | script (steps : List Step)

structure Constants where
  slots : List String
  verbose : Nat
  mainline : Nat
  deferBreakpointReset : Nat
  noRead : Nat
  nullPlaceholder : String
  environmentVariable : String
deriving DecidableEq

def Constants.values : Constants where
  slots := Slot.all.map Slot.name
  verbose := ReadFlag.verbose
  mainline := ReadFlag.mainline
  deferBreakpointReset := ReadFlag.deferBreakpointReset
  noRead := ReadFlag.noRead
  nullPlaceholder := Record.nullPlaceholder
  environmentVariable := Configuration.variableName

inductive Response
  | constants (values : Constants)
  | text (text : String)
  | texts (texts : List String)
  | boolean (value : Bool)
  | booleans (values : List (Option Bool))
  | configuration (configuration : Configuration)
  | failed (failure : Failure)
  | observed (answers : List Observed)
  | stuck (reason : Stuck)
deriving DecidableEq

namespace Query

def renderTexts (literals : List Literal) : Except Stuck (List String) :=
  let texts : Turn (List String) := do
    let values ← Turn.values literals
    let outcome ← Turn.edit (Edit.renderAll values)
    match outcome with
    | .ok texts => pure texts
    | .error _ => pure []
  (texts Stage.initial).map (·.1)

def hexText : Literal → Except Stuck String
  | .number value => .ok value.hexText
  | .integer value => .ok (Hexadecimal.render value)
  | _ => .error (.misplaced "number in base sixteen")

def ofTexts : Except Stuck (List String) → Response
  | .ok texts => .texts texts
  | .error reason => .stuck reason

/-- The environment of a process in which only the debug variable matters. -/
def processEnvironment (value : Option String) : Environment :=
  match value with
  | some text => [(Configuration.variableName, .text text)]
  | none => []

def answer : Query → Response
  | .constants => .constants .values
  | .render values => ofTexts (renderTexts values)
  | .hexadecimal values => ofTexts (values.mapM hexText)
  | .addresses values => ofTexts (renderTexts values)
  | .callRecord label name objectFile arguments =>
      .text (Record.call label name objectFile arguments)
  | .resultRecord label name value => .text (Record.result label name value)
  | .readBooleans texts => .booleans (texts.map Setting.readBoolean?)
  | .parseSetting name text =>
      match Setting.parse name text with
      | .ok value => .boolean value
      | .error fault => .failed (.fault fault)
  | .loadConfiguration environment processValue =>
      match Configuration.loadDefault environment (processEnvironment processValue) with
      | .ok configuration => .configuration configuration
      | .error fault => .failed (.fault fault)
  | .script steps =>
      match Script.run steps with
      | .ok answers => .observed answers
      | .error reason => .stuck reason

end Query

end ReaderTrace
