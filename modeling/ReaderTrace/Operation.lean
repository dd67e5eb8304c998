import ReaderTrace.Quick.Access
import ReaderTrace.SymbolFile

/-!
The operations that a client can start, each with the routine that carries it
out.

A client does nothing to the library but start operations and answer calls;
what it does to its own tables and objects counts as operations too.
What only reads the state, and returns no more than the state shows, is not an
operation here, apart from the list of the functions that a table has.
-/

namespace ReaderTrace

/-- A table that an operation works on: one that the client holds, or the
active one of an object file. -/
inductive TableSource
  | held (table : TableRef)
  | active (file : ObjectFileId)
deriving DecidableEq

inductive Operation
  -- Program spaces and object files
  | createSpace (name : Option String)
  | addObjectFile (space : SpaceId) (name : String) (quick : Option QuickId)
  | removeObjectFile (space : SpaceId) (file : ObjectFileId)
  | dispose (space : SpaceId)
  | setPartialSymbolsRead (file : ObjectFileId) (value : Bool)
  -- Tables
  | newProbeTable (function : FunctionId)
  | newReaderTable (table : ReaderTable)
  | newQuickFunctions (functions : QuickFunctions)
  | reshapeTable (id : ReaderTableId) (shape : ReaderTable)
  | assignSlot (table : TableRef) (slot : Slot) (function : Option FunctionId)
  | assignProbeTable (table : TableRef) (probes : Option ProbeTableId)
  | assignProbes (table : TableRef) (function : FunctionId)
  | presentNames (source : TableSource)
  | callMethod (source : TableSource) (method : Option Slot) (arguments : List Value)
      (detached : Bool)
  -- Logging
  | setTable (file : ObjectFileId) (table : TableRef)
  | install (file : ObjectFileId)
  | uninstall (file : ObjectFileId)
  | setDebug (value : Bool)
  | setCommand (text : String)
  | applyConfiguration (configuration : Configuration)
  | applyEnvironment (environment : Environment)
  -- The diagnostic stream
  | setStream (stream : Stream)
  | writeRecord (text : String)
  | render (value : Value)
  -- Symbol files
  | addSymbolFile (space : SpaceId) (name : String) (quick : Option QuickId) (table : TableRef)
      (flags : Double)
  | finishSymbolFile (space : SpaceId) (file : ObjectFileId)
  | probes (file : ObjectFileId)
  | relocate (file : ObjectFileId) (sectionInfo buffer : Value)
  -- Quick functions
  | describe (object : ObjectId) (content : Content)
  | hasPartialSymbols (file : ObjectFileId)
  | access (file : ObjectFileId) (request : QuickRequest Value)
  | symbolLanguage (file : ObjectFileId) (name : String) (domain : Domain)
  -- Events
  | createEvent
  | subscribe (event : EventId) (function : FunctionId)
  | post (event : EventId) (data : Value)

inductive Result
  | nothing
  | space (id : SpaceId)
  | objectFile (id : ObjectFileId)
  | probeTable (id : ProbeTableId)
  | readerTable (id : ReaderTableId)
  | quickFunctions (id : QuickId)
  | event (id : EventId)
  | names (names : List String)
  | value (value : Value)
  | text (text : String)
  | stream (stream : Stream)
  | language (answer : SymbolLanguage)
  /-- There was no table, or no such function in it. -/
  | missing
deriving DecidableEq

namespace TableSource

def table? (library : Library) : TableSource → Option TableRef
  | .held table => some table
  | .active file => library.tableOf? file

end TableSource

namespace Operation

def presentNamesOf (source : TableSource) : Routine Result := do
  let library ← Routine.library
  match source.table? library with
  | none => pure .missing
  | some table => pure (.names (library.presentNames table))

def invoke (source : TableSource) (method : Option Slot) (arguments : List Value)
    (detached : Bool) : Routine Result := do
  let library ← Routine.library
  match (source.table? library).bind fun table => library.method? table method with
  | none => pure .missing
  | some (receiver, function) => do
      let value ← function.invoke (if detached then none else some receiver) arguments
      pure (.value value)

def routine : Operation → Routine Result
  | .createSpace name => do
      let id ← ProgramSpace.create name
      pure (.space id)
  | .addObjectFile space name quick => do
      let id ← ProgramSpace.addObjectFile space name quick
      pure (.objectFile id)
  | .removeObjectFile space file => do
      ProgramSpace.removeObjectFile space file
      pure .nothing
  | .dispose space => do
      ProgramSpace.dispose space
      pure .nothing
  | .setPartialSymbolsRead file value => do
      Edit.setPartialSymbolsRead file value
      pure .nothing
  | .newProbeTable function => do
      let id ← Edit.newProbeTable function
      pure (.probeTable id)
  | .newReaderTable table => do
      let id ← Edit.newReaderTable table
      pure (.readerTable id)
  | .newQuickFunctions functions => do
      let id ← Edit.newQuickFunctions functions
      pure (.quickFunctions id)
  | .reshapeTable id shape => do
      Edit.reshapeTable id shape
      pure .nothing
  | .assignSlot table slot function => do
      Edit.assignSlot table slot function
      pure .nothing
  | .assignProbeTable table replacement => do
      Edit.assignProbeTable table replacement
      pure .nothing
  | .assignProbes table function => do
      Edit.assignProbes table function
      pure .nothing
  | .presentNames source => presentNamesOf source
  | .callMethod source method arguments detached => invoke source method arguments detached
  | .setTable file table => do
      SymbolFile.setTable file table
      pure .nothing
  | .install file => do
      Logging.install file
      pure .nothing
  | .uninstall file => do
      Logging.uninstall file
      pure .nothing
  | .setDebug value => do
      Logging.setDebug value
      pure .nothing
  | .setCommand text => do
      Logging.setCommand text
      pure .nothing
  | .applyConfiguration configuration => do
      Logging.apply configuration
      pure .nothing
  | .applyEnvironment environment => do
      Logging.applyEnvironment environment
      pure .nothing
  | .setStream stream => do
      let before ← Edit.setStream stream
      pure (.stream before)
  | .writeRecord text => do
      let value ← Routine.writeRecord text
      pure (.value value)
  | .render value => do
      let text ← Edit.render value
      pure (.text text)
  | .addSymbolFile space name quick table flags => do
      let id ← SymbolFile.add space name quick table flags
      pure (.objectFile id)
  | .finishSymbolFile space file => do
      SymbolFile.finish space file
      pure .nothing
  | .probes file => do
      let found ← SymbolFile.probes file
      pure (found.elim .missing .value)
  | .relocate file sectionInfo buffer => do
      let value ← SymbolFile.relocate file sectionInfo buffer
      pure (.value value)
  | .describe object content => do
      Edit.describe object content
      pure .nothing
  | .hasPartialSymbols file => do
      let value ← Quick.hasPartialSymbols file
      pure (.value value)
  | .access file request => do
      let value ← Quick.access file request
      pure (.value value)
  | .symbolLanguage file name domain => do
      let answer ← Quick.symbolLanguage file name domain
      pure (.language answer)
  | .createEvent => do
      let id ← Event.create
      pure (.event id)
  | .subscribe event function => do
      Event.subscribe event (.client function)
      pure .nothing
  | .post event data => do
      Event.post event data
      pure .nothing

/-- A client can hand in only tables that exist, and can post only the events
that clients created. -/
def Admissible (library : Library) : Operation → Prop
  | .newReaderTable table =>
      ∀ probes, table.probes.read = some probes → probes.index < library.probeTables.length
  | .reshapeTable _ shape =>
      ∀ probes, shape.probes.read = some probes → probes.index < library.probeTables.length
  | .assignProbeTable _ replacement =>
      ∀ id, replacement = some id → id.index < library.probeTables.length
  | .setTable _ table => library.HasTable table
  | .addSymbolFile _ _ _ table _ => library.HasTable table
  | .post event _ => event ≠ destroyedEvent
  | _ => True

/-- Whether an operation leaves it to the debug setting on which object files
logging is installed. -/
def Gated : Operation → Prop
  | .install _ => False
  | .uninstall _ => False
  | _ => True

end Operation

end ReaderTrace
