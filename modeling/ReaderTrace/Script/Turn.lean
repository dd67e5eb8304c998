import ReaderTrace.Script.Session

/-!
Turns: the parts of a script's run.

A turn looks names up, binds new ones, evaluates literals, and carries
operations of the library through. A turn that meets a name that stands for
nothing is stuck; nothing the library itself does makes a turn stuck.
-/

namespace ReaderTrace.Script

/-- Why a script cannot go on at all: it nests calls deeper than allowed, uses
a name that stands for nothing, or has a value of the wrong kind. -/
inductive Stuck
  | tooDeep
  | unbound (name : String)
  | misplaced (role : String)
deriving DecidableEq

structure Stage where
  library : Library
  session : Session

/-- A part of a script's run, with the library and the session as its state. -/
abbrev Turn :=
  StateT Stage (Except Stuck)

abbrev ScriptClients :=
  Routine.Clients Stuck Session

namespace Turn

def session : Turn Session := do
  let stage ← get
  pure stage.session

def library : Turn Library := do
  let stage ← get
  pure stage.library

def modifySession (change : Session → Session) : Turn Unit :=
  modify fun stage => { stage with session := change stage.session }

def happen (happening : Happening) : Turn Unit :=
  modifySession fun session =>
    { session with happenings := session.happenings ++ [happening] }

def require {α : Type} (name : String) (found : Option α) : Turn α :=
  match found with
  | some value => pure value
  | none => throw (.unbound name)

def perform {α : Type} (clients : ScriptClients) (routine : Routine α) :
    Turn (Except Raised α) := fun stage =>
  match routine.run clients stage.library stage.session with
  | .error stuck => .error stuck
  | .ok (outcome, library, session) => .ok (outcome, { library := library, session := session })

def edit {α : Type} (change : Edit α) : Turn (Except Raised α) := fun stage =>
  let (outcome, library) := change.apply stage.library
  .ok (outcome, { stage with library := library })

/-! ### Looking names up -/

def space (name : String) : Turn SpaceId := do
  let session ← session
  require name (session.spaces.reverse.lookup name)

def objectFile (name : String) : Turn ObjectFileId := do
  let session ← session
  require name (session.objectFiles.reverse.lookup name)

def table (name : String) : Turn TableRef := do
  let session ← session
  require name (session.tables.lookup name)

def quickObject (name : Option String) : Turn (Option QuickId) := do
  match name with
  | none => pure none
  | some name => do
      let session ← session
      let id ← require name (session.quickObjects.lookup name)
      pure (some id)

def event (name : String) : Turn EventId := do
  let session ← session
  require name (session.events.lookup name)

def sideTable (name : String) : Turn (SideTable Referent Value) := do
  let session ← session
  require name (session.sideTables.lookup name)

def chosenTable : TableChoice → Turn (Option TableRef)
  | .named name => do
      let found ← table name
      pure (some found)
  | .active name => do
      let file ← objectFile name
      let library ← library
      pure (library.tableOf? file)

/-! ### Binding names -/

def bindObjectFile (name : String) (file : ObjectFileId) : Turn Unit :=
  modifySession fun session =>
    { session with objectFiles := session.objectFiles ++ [(name, file)] }

def bindTable (name : String) (table : TableRef) : Turn Unit :=
  modifySession fun session => { session with tables := (name, table) :: session.tables }

/-- The name of a table in answers. A shadow gets its name here. -/
def nameTable (table : TableRef) : Turn String := do
  match table with
  | .reader _ => pure ()
  | .shadow id =>
      modifySession fun session =>
        if id ∈ session.shadowNames then session
        else { session with shadowNames := session.shadowNames ++ [id] }
  let session ← session
  pure (session.tableName table)

def newFunction (label : FunctionLabel) (behaviors : List Behavior) : Turn FunctionId := do
  let session ← session
  let function : ScriptedFunction := { label := label, behaviors := behaviors, calls := 0 }
  modifySession fun session => { session with functions := session.functions ++ [function] }
  pure { index := session.functions.length }

/-! ### Literals -/

def newObject (name : String) (kind : ReferenceKind) : Turn NamedObject :=
  match kind with
  | .error message => pure { name := name, message := some message, function := none }
  | .function behaviors => do
      let id ← newFunction (.callback name) behaviors
      pure { name := name, message := none, function := some id }
  | _ => pure { name := name, message := none, function := none }

/-- A declared object gets its content at once, and nothing changes it later. -/
def declare (name : String) (kind : ReferenceKind) : Turn Referent := do
  let object ← newObject name kind
  let session ← session
  modifySession fun session => { session with objects := session.objects ++ [object] }
  let id : ObjectId := { index := session.objects.length }
  discard (edit (Edit.describe id kind.content))
  pure (.object id)

/-- Only the first mention of a name declares it. -/
def resolve : LiteralReference → Turn Referent
  | .declared none kind => declare "" kind
  | .declared (some name) kind => do
      let session ← session
      match session.objects.findIdx? fun object => object.name = name with
      | some position => pure (.object { index := position })
      | none => declare name kind
  | .objectFile name => do
      let file ← objectFile name
      pure (.objectFile file)
  | .table name => do
      let found ← table name
      pure (.table found)

def value : Literal → Turn Value
  | .absent => pure .absent
  | .null => pure .null
  | .boolean value => pure (.boolean value)
  | .text value => pure (.text value)
  | .number value => pure (.number value)
  | .integer value => pure (.integer value)
  | .symbol description => pure (.symbol description)
  | .reference reference => do
      let referent ← resolve reference
      pure (.reference referent)

def values : List Literal → Turn (List Value)
  | [] => pure []
  | literal :: rest => do
      let first ← value literal
      let others ← values rest
      pure (first :: others)

def referent (literal : Literal) : Turn Referent := do
  match literal with
  | .reference reference => resolve reference
  | _ => throw (.misplaced "key of a side table")

/-! ### Answers -/

def answerTo {α : Type} (report : α → Turn Answer) : Except Raised α → Turn Answer
  | .ok value => report value
  | .error raised => do
      let session ← session
      pure (.failed (session.displayRaised raised))

def done : Except Raised Unit → Turn Answer :=
  answerTo fun _ => pure .done

def reportBoolean (value : Bool) : Turn Answer :=
  pure (.report (.boolean value))

def reportValue (value : Value) : Turn Answer := do
  let session ← session
  pure (.report (.value (session.display value)))

end Turn

end ReaderTrace.Script
