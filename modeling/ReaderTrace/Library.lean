import ReaderTrace.Fault
import ReaderTrace.SideTable
import ReaderTrace.Table
import ReaderTrace.Text.BaseName

/-!
The state of the library, and the reads that do not change it.

Program spaces, object files, tables and events are kept in lists and named by
their position, so an identity stays valid for ever; what is live is said by
the registry of program spaces and by their lists of object files. The tables,
the quick functions and the contents of objects belong to readers and other
clients; they are here because the library reads them.
-/

namespace ReaderTrace

structure ObjectFile where
  name : String
  quick : Option QuickId
  /-- The active table; there is none before the first one is set. -/
  table : Option TableRef
  partialSymbolsRead : Bool
  /-- Whether the active table can still be assigned. -/
  attached : Bool
deriving DecidableEq

/-- What trace records print to identify the object file. -/
def ObjectFile.debugName (file : ObjectFile) : String :=
  BaseName.ofPath file.name

structure ProgramSpace where
  number : Nat
  name : String
  objectFiles : List ObjectFileId
  disposed : Bool
deriving DecidableEq

inductive Listener
  /-- The library itself, which lets go of what it holds for an object file. -/
  | release
  | client (function : FunctionId)
deriving DecidableEq

inductive Stream
  | console
  | named (name : String)
deriving DecidableEq

structure Library where
  debug : Bool
  spaces : List ProgramSpace
  /-- The program spaces that have not been disposed, in creation order. -/
  registry : List SpaceId
  nextNumber : Nat
  objectFiles : List ObjectFile
  debugData : SideTable ObjectFileId DebugData
  addresses : AddressBook
  stream : Stream
  events : List (List Listener)
  readerTables : List ReaderTable
  /-- The function of each probe table that a reader made. -/
  probeTables : List FunctionId
  shadows : List Shadow
  quickFunctions : List QuickFunctions
  contents : ObjectId → Content

def destroyedEvent : EventId :=
  { index := 0 }

namespace Library

/-- The library before anything has happened. It already listens to the
destruction of object files itself. -/
def initial : Library where
  debug := false
  spaces := []
  registry := []
  nextNumber := 1
  objectFiles := []
  debugData := .empty
  addresses := .empty
  stream := .console
  events := [[.release]]
  readerTables := []
  probeTables := []
  shadows := []
  quickFunctions := []
  contents := fun _ => .plain

/-! ### Object files -/

def objectFile? (library : Library) (file : ObjectFileId) : Option ObjectFile :=
  library.objectFiles[file.index]?

def debugName (library : Library) (file : ObjectFileId) : String :=
  ((library.objectFile? file).map ObjectFile.debugName).getD ""

def tableOf? (library : Library) (file : ObjectFileId) : Option TableRef :=
  (library.objectFile? file).bind ObjectFile.table

def quickOf? (library : Library) (file : ObjectFileId) : Option QuickId :=
  (library.objectFile? file).bind ObjectFile.quick

def isAttached (library : Library) (file : ObjectFileId) : Bool :=
  ((library.objectFile? file).map ObjectFile.attached).getD false

def partialSymbolsRead (library : Library) (file : ObjectFileId) : Bool :=
  ((library.objectFile? file).map ObjectFile.partialSymbolsRead).getD false

def modifyObjectFile (library : Library) (file : ObjectFileId)
    (change : ObjectFile → ObjectFile) : Library :=
  { library with objectFiles := library.objectFiles.modify file.index change }

/-! ### Program spaces -/

def space? (library : Library) (space : SpaceId) : Option ProgramSpace :=
  library.spaces[space.index]?

def spaceName (library : Library) (space : SpaceId) : String :=
  ((library.space? space).map ProgramSpace.name).getD ""

def isDisposed (library : Library) (space : SpaceId) : Bool :=
  ((library.space? space).map ProgramSpace.disposed).getD true

def owned (library : Library) (space : SpaceId) : List ObjectFileId :=
  ((library.space? space).map ProgramSpace.objectFiles).getD []

def modifySpace (library : Library) (space : SpaceId)
    (change : ProgramSpace → ProgramSpace) : Library :=
  { library with spaces := library.spaces.modify space.index change }

/-- The object files of the registered program spaces, space by space. -/
def live (library : Library) : List ObjectFileId :=
  library.registry.flatMap library.owned

/-! ### Tables -/

def function? (library : Library) (table : TableRef) (slot : Slot) : Option TableFunction :=
  match table with
  | .reader id =>
      (library.readerTables[id.index]?).bind fun table =>
        (table.functions slot).read.map TableFunction.client
  | .shadow id => (library.shadows[id.index]?).bind fun shadow => shadow.functions slot

/-- The function of a table's probe table, and that probe table. -/
def probes? (library : Library) (table : TableRef) : Option (ProbeTableRef × TableFunction) :=
  match table with
  | .reader id =>
      (library.readerTables[id.index]?).bind fun table =>
        table.probes.read.bind fun probes =>
          (library.probeTables[probes.index]?).map fun function =>
            (.reader probes, .client function)
  | .shadow id =>
      (library.shadows[id.index]?).bind fun shadow =>
        shadow.probes.map fun function => (.shadow id, function)

def HasTable (library : Library) : TableRef → Prop
  | .reader id => id.index < library.readerTables.length
  | .shadow id => id.index < library.shadows.length

def presentNames (library : Library) (table : TableRef) : List String :=
  ((Slot.all.filter fun slot => (library.function? table slot).isSome).map Slot.name) ++
    (if (library.probes? table).isSome then [probesName] else [])

/-! ### Logging -/

def debugDataOf? (library : Library) (file : ObjectFileId) : Option DebugData :=
  library.debugData.lookup file

def isInstalled (library : Library) (file : ObjectFileId) : Bool :=
  (library.tableOf? file).isSome && library.debugData.has file

def showDebug (library : Library) : String :=
  "Symfile debugging is " ++ (if library.debug then "on" else "off") ++ "."

/-! ### Objects of clients -/

def languageIn? (library : Library) : Value → Option SymbolLanguage
  | .reference (.object id) => (library.contents id).language?
  | _ => none

/-! ### Events -/

def listeners (library : Library) (event : EventId) : List Listener :=
  (library.events[event.index]?).getD []

end Library

end ReaderTrace
