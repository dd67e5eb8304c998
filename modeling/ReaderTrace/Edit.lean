import ReaderTrace.Library

/-!
Changes of the library's state during which no client runs.

An edit that fails keeps the changes it made before it failed. The edits here
are the small ones: raising, rendering, and the assignments that readers and
object files make; installing and removing the logging is built from them
elsewhere.
-/

namespace ReaderTrace

abbrev Edit (α : Type) :=
  ExceptT Raised (StateM Library) α

namespace Edit

def fail {α : Type} (fault : Fault) : Edit α :=
  throw (.fault fault)

def require (condition : Bool) (cause : Assertion) : Edit Unit :=
  if condition then pure () else fail (.assertion cause)

def apply {α : Type} (edit : Edit α) (library : Library) : Except Raised α × Library :=
  edit.run.run library

/-! ### Applying edits -/

section Apply

variable {α β : Type}

@[simp] theorem apply_pure (value : α) (library : Library) :
    apply (pure value) library = (.ok value, library) :=
  rfl

@[simp] theorem apply_get (library : Library) :
    apply get library = (.ok library, library) :=
  rfl

@[simp] theorem apply_set (library replacement : Library) :
    apply (set replacement) library = (.ok ⟨⟩, replacement) :=
  rfl

@[simp] theorem apply_modify (change : Library → Library) (library : Library) :
    apply (modify change) library = (.ok ⟨⟩, change library) :=
  rfl

@[simp] theorem apply_fail (fault : Fault) (library : Library) :
    apply (fail fault : Edit α) library = (.error (.fault fault), library) :=
  rfl

/-- An edit that fails ends a sequence there. -/
theorem apply_bind (first : Edit α) (next : α → Edit β) (library : Library) :
    apply (first >>= next) library =
      match apply first library with
      | (.ok value, library) => apply (next value) library
      | (.error raised, library) => (.error raised, library) := by
  unfold apply
  simp only [ExceptT.run_bind, StateT.run_bind]
  rcases StateT.run first.run library with ⟨_ | _, _⟩ <;> rfl

theorem apply_require (condition : Bool) (cause : Assertion) (library : Library) :
    apply (require condition cause) library =
      (if condition then .ok () else .error (.fault (.assertion cause)), library) := by
  cases condition <;> rfl

end Apply

/-! ### Rendering -/

def render (value : Value) : Edit String := do
  let library ← get
  let (text, addresses) := Record.render value library.addresses
  set { library with addresses := addresses }
  pure text

def renderAll (values : List Value) : Edit (List String) := do
  let library ← get
  let (texts, addresses) := Record.renderAll values library.addresses
  set { library with addresses := addresses }
  pure texts

/-! ### What readers make and change -/

def newProbeTable (function : FunctionId) : Edit ProbeTableId := do
  let library ← get
  set { library with probeTables := library.probeTables ++ [function] }
  pure { index := library.probeTables.length }

def newReaderTable (table : ReaderTable) : Edit ReaderTableId := do
  let library ← get
  set { library with readerTables := library.readerTables ++ [table] }
  pure { index := library.readerTables.length }

def newQuickFunctions (functions : QuickFunctions) : Edit QuickId := do
  let library ← get
  set { library with quickFunctions := library.quickFunctions ++ [functions] }
  pure { index := library.quickFunctions.length }

/-- A shadow is frozen: whoever assigns to it, or to its probe table, fails. -/
def requireReader (table : TableRef) : Edit ReaderTableId :=
  match table with
  | .reader id => pure id
  | .shadow _ => fail .frozenTable

def modifyReaderTable (id : ReaderTableId) (change : ReaderTable → ReaderTable) : Edit Unit :=
  modify fun library =>
    { library with readerTables := library.readerTables.modify id.index change }

/-- A client is free to do with a table of its own what it likes: to take a
place away, or to change the table that it shows through from. -/
def reshapeTable (id : ReaderTableId) (shape : ReaderTable) : Edit Unit :=
  modifyReaderTable id fun _ => shape

def assignSlot (table : TableRef) (slot : Slot) (function : Option FunctionId) : Edit Unit := do
  let id ← requireReader table
  modifyReaderTable id fun table =>
    { table with
      functions := fun place =>
        if place = slot then (table.functions place).assign function
        else table.functions place }

def assignProbeTable (table : TableRef) (probes : Option ProbeTableId) : Edit Unit := do
  let id ← requireReader table
  modifyReaderTable id fun table => { table with probes := table.probes.assign probes }

def assignProbes (table : TableRef) (function : FunctionId) : Edit Unit := do
  let library ← get
  match library.probes? table with
  | some (.reader probes, _) =>
      set { library with probeTables := library.probeTables.set probes.index function }
  | _ => fail .frozenTable

/-- Says what an object of a client holds from now on. -/
def describe (object : ObjectId) (content : Content) : Edit Unit :=
  modify fun library =>
    { library with
      contents := fun other => if other = object then content else library.contents other }

/-! ### Object files -/

/-- Makes `table` the active one, without regard to logging. -/
def assignTable (file : ObjectFileId) (table : TableRef) : Edit Unit := do
  let library ← get
  require (library.isAttached file) (.notAttached (library.debugName file))
  set (library.modifyObjectFile file fun file => { file with table := some table })

def setPartialSymbolsRead (file : ObjectFileId) (value : Bool) : Edit Unit :=
  modify fun library =>
    library.modifyObjectFile file fun file => { file with partialSymbolsRead := value }

/-- After this the active table can no longer be assigned. -/
def detach (file : ObjectFileId) : Edit Unit :=
  modify fun library => library.modifyObjectFile file fun file => { file with attached := false }

/-! ### The diagnostic stream -/

/-- Redirects the records; answers with the stream that was in place. -/
def setStream (stream : Stream) : Edit Stream := do
  let library ← get
  set { library with stream := stream }
  pure library.stream

end Edit

end ReaderTrace
