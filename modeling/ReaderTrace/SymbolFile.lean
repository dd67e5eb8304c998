import ReaderTrace.Invocation
import ReaderTrace.ProgramSpace

/-!
Reading and releasing the symbols of a file through its reader.

Every step looks up the active table anew, because a reader's function may
have replaced the table or changed the debug setting; a step whose function is
missing is passed over.
-/

namespace ReaderTrace.SymbolFile

def setTable (file : ObjectFileId) (table : TableRef) : Routine Unit := do
  Logging.setTable file table
  Routine.reached (.tableSet file table)

/-- The active table, which must have been set. -/
def activeTable (file : ObjectFileId) : Edit TableRef := do
  let library ← get
  match library.tableOf? file with
  | some table => pure table
  | none => Edit.fail (.assertion (.noTable (library.debugName file)))

def callPresent (file : ObjectFileId) (slot : Slot) (arguments : List Value) : Routine Unit := do
  let table ← activeTable file
  let library ← Routine.library
  match library.function? table slot with
  | none => pure ()
  | some function => discard (function.invoke (some (.table table)) arguments)

/-- Whether the flags put off the reading of symbols. -/
def defersReading (flags : Double) : Bool :=
  flags.toWord.getLsbD ReadFlag.noReadBit

/-- Gives a new object file its table and lets the reader read its symbols.
The reader gets the flags as they were given. -/
def load (file : ObjectFileId) (table : TableRef) (flags : Double) : Routine Unit := do
  setTable file table
  callPresent file .newInit [.objectFile file]
  callPresent file .init [.objectFile file]
  if defersReading flags then
    pure ()
  else do
    callPresent file .read [.objectFile file, .number flags]
    Edit.setPartialSymbolsRead file true
    callPresent file .readLinetable [.objectFile file]

def add (space : SpaceId) (name : String) (quick : Option QuickId) (table : TableRef)
    (flags : Double) : Routine ObjectFileId := do
  let file ← ProgramSpace.addObjectFile space name quick
  load file table flags
  pure file

def finish (space : SpaceId) (file : ObjectFileId) : Routine Unit := do
  callPresent file .finish [.objectFile file]
  ProgramSpace.removeObjectFile space file

/-- What the reader's probe function returns; `none` stands for the empty list
of a reader without probe functions. -/
def probes (file : ObjectFileId) : Routine (Option Value) := do
  let table ← activeTable file
  let library ← Routine.library
  match library.probes? table with
  | none => pure none
  | some (owner, function) => do
      let value ← function.invoke (some (.probes owner)) [.objectFile file]
      pure (some value)

/-- Lets the reader relocate a section. The function is taken out of the table
and called on its own. -/
def relocate (file : ObjectFileId) (sectionInfo buffer : Value) : Routine Value := do
  let table ← activeTable file
  let library ← Routine.library
  match library.function? table .relocate with
  | none => Routine.fail (.unsupported .relocate (library.debugName file))
  | some function => function.invoke none [.objectFile file, sectionInfo, buffer]

end ReaderTrace.SymbolFile
