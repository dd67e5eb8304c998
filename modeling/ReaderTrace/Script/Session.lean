import ReaderTrace.Routine
import ReaderTrace.Script.Answer
import ReaderTrace.Script.Step

/-!
The state of a running script beside the library's own: what its names stand
for, its scripted functions, and the happenings of the step that is running.

Names are only ever added. The lists whose positions are identities of the
library (the names of reader tables, of probe tables, of object references)
grow in step with the library's lists.
-/

namespace ReaderTrace.Script

/-- What a scripted function is, which decides how its calls are shown. -/
inductive FunctionLabel
  | method (owner name : String)
  | callback (name : String)
  | destroyedListener (name : String)
  | listener (name : String)
  | stream (name : String)
deriving DecidableEq

structure ScriptedFunction where
  label : FunctionLabel
  behaviors : List Behavior
  calls : Nat

/-- The behaviour of the next call: calls beyond the last behaviour use it. -/
def ScriptedFunction.next (function : ScriptedFunction) : Behavior :=
  match function.behaviors[function.calls]? with
  | some behavior => behavior
  | none => function.behaviors.getLast?.getD (.behave [] (.returns .absent))

structure NamedObject where
  name : String
  message : Option String
  function : Option FunctionId
deriving DecidableEq

structure Session where
  spaces : List (String × SpaceId)
  objectFiles : List (String × ObjectFileId)
  tables : List (String × TableRef)
  readerTableNames : List String
  probeTableNames : List String
  shadowNames : List ShadowId
  quickObjects : List (String × QuickId)
  quickFunctions : List (String × List (QuickFunction × FunctionId))
  objects : List NamedObject
  events : List (String × EventId)
  sideTables : List (String × SideTable Referent Value)
  streams : List (String × FunctionId)
  functions : List ScriptedFunction
  happenings : List Happening

namespace Session

def initial : Session where
  spaces := []
  objectFiles := []
  tables := []
  readerTableNames := []
  probeTableNames := []
  shadowNames := []
  quickObjects := []
  quickFunctions := []
  objects := []
  events := []
  sideTables := []
  streams := []
  functions := []
  happenings := []

/-! ### Names for answers -/

def objectName (session : Session) (id : ObjectId) : String :=
  ((session.objects[id.index]?).map NamedObject.name).getD ""

def objectFileName (session : Session) (id : ObjectFileId) : String :=
  ((session.objectFiles.find? fun entry => entry.2 = id).map (·.1)).getD ""

def shadowName (position : Nat) : String :=
  "shadow#" ++ Nat.repr (position + 1)

def tableName (session : Session) : TableRef → String
  | .reader id => (session.readerTableNames[id.index]?).getD ""
  | .shadow id => shadowName (session.shadowNames.idxOf id)

def receiverName (session : Session) : Receiver → String
  | .table table => session.tableName table
  | .probes (.reader id) => (session.probeTableNames[id.index]?).getD ""
  | .probes (.shadow id) => session.tableName (.shadow id) ++ "." ++ probeTableName

def showReferent (session : Session) : Referent → ShownReference
  | .object id => .object (session.objectName id)
  | .objectFile id => .objectFile (session.objectFileName id)
  | .table table => .table (session.tableName table)

/-- A value with names in the place of identities. -/
def display (session : Session) : Value → Shown
  | .absent => .absent
  | .null => .null
  | .boolean value => .boolean value
  | .text value => .text value
  | .number value => .number value
  | .integer value => .integer value
  | .symbol description => .symbol description
  | .reference referent => .reference (session.showReferent referent)

def displayRaised (session : Session) : Raised → Failure
  | .fault fault => .fault fault
  | .thrown (.reference (.object id)) =>
      match (session.objects[id.index]?).bind NamedObject.message with
      | some message => .error (session.objectName id) message
      | none => .thrown (session.display (.reference (.object id)))
  | .thrown value => .thrown (session.display value)

end Session

end ReaderTrace.Script
