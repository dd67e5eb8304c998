import ReaderTrace.Event

/-!
Program spaces: creating them, adding and removing object files, disposing.

An object file leaves its program space before its destruction is announced,
and can no longer be given a table once all listeners have been told. A
program space that is being disposed takes no new object files, so its
disposal ends after as many removals as it owned files at the start.
-/

namespace ReaderTrace.ProgramSpace

/-- Creates a program space; without a name it is named after its number. -/
def create (name : Option String) : Edit SpaceId := do
  let library ← get
  let number := library.nextNumber
  let space : ProgramSpace :=
    { number := number
      name := name.getD ("program space " ++ Nat.repr number)
      objectFiles := []
      disposed := false }
  let id : SpaceId := { index := library.spaces.length }
  set { library with
    spaces := library.spaces ++ [space]
    registry := library.registry ++ [id]
    nextNumber := number + 1 }
  pure id

def addObjectFile (space : SpaceId) (name : String) (quick : Option QuickId) :
    Edit ObjectFileId := do
  let library ← get
  Edit.require (!library.isDisposed space) (.spaceDisposed (library.spaceName space))
  let file : ObjectFile :=
    { name := name
      quick := quick
      table := none
      partialSymbolsRead := false
      attached := true }
  let id : ObjectFileId := { index := library.objectFiles.length }
  let library := { library with objectFiles := library.objectFiles ++ [file] }
  set (library.modifySpace space fun space =>
    { space with objectFiles := space.objectFiles ++ [id] })
  pure id

def strike (space : SpaceId) (file : ObjectFileId) : Edit Unit := do
  let library ← get
  Edit.require ((library.owned space).contains file)
    (.notOwned (library.debugName file) (library.spaceName space))
  set (library.modifySpace space fun space =>
    { space with objectFiles := space.objectFiles.erase file })

/-- Announces that an object file is destroyed, then detaches it. When a
listener throws, the file stays attached. -/
def destroy (file : ObjectFileId) : Routine Unit := do
  Routine.reached (.destroyed file)
  Event.post destroyedEvent (.objectFile file)
  Edit.detach file

def removeObjectFile (space : SpaceId) (file : ObjectFileId) : Routine Unit := do
  strike space file
  destroy file

/-- Removes the last object file as long as there is one, `count` times at
most. -/
def removeAll (space : SpaceId) : Nat → Routine Unit
  | 0 => pure ()
  | count + 1 => do
      let library ← Routine.library
      match (library.owned space).getLast? with
      | none => pure ()
      | some file => do
          removeObjectFile space file
          removeAll space count

/-- Takes a program space out of the registry; without a place in it the last
one goes. -/
def unregister (space : SpaceId) : Edit Unit :=
  modify fun library =>
    { library with
      registry :=
        if library.registry.contains space then library.registry.erase space
        else library.registry.dropLast }

def markDisposed (space : SpaceId) : Edit Unit :=
  modify fun library => library.modifySpace space fun space => { space with disposed := true }

/-- Removes all object files of a program space and forgets the space. A
second disposal does nothing, also one that is asked for during the first. -/
def dispose (space : SpaceId) : Routine Unit := do
  let library ← Routine.library
  if library.isDisposed space then
    pure ()
  else do
    markDisposed space
    removeAll space (library.owned space).length
    unregister space

end ReaderTrace.ProgramSpace
