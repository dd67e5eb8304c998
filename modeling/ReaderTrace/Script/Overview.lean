import ReaderTrace.Script.Turn

/-!
Looking at the state of the library from a script.

Only here, and where a script asks for a table by way of an object file, do
shadows get their names; looking changes nothing else.
-/

namespace ReaderTrace.Script.Turn

/-! ### Looking at the state -/

def nameTable? (table : Option TableRef) : Turn (Option String) := do
  match table with
  | none => pure none
  | some table => do
      let name ← nameTable table
      pure (some name)

def inspect (file : ObjectFileId) : Turn Answer := do
  let library ← library
  match library.tableOf? file with
  | some (.shadow id) => do
      let name ← nameTable (.shadow id)
      let shadow := library.shadows[id.index]?
      let hasProbes := (shadow.bind Shadow.probes).isSome
      pure (.report (.inspection
        { table := name
          keys := (shadow.map Shadow.keys).getD []
          frozen := true
          probeKeys := if hasProbes then some [probesName] else none
          probesFrozen := if hasProbes then some true else none }))
  | _ => pure .absent

def overviewOf (entry : String × ObjectFileId) : Turn ObjectFileOverview := do
  let library ← library
  let file := entry.2
  let table ← nameTable? (library.tableOf? file)
  let data ←
    match library.debugDataOf? file with
    | none => pure none
    | some data => do
        let base ← nameTable data.base
        let shadow ← nameTable data.shadow
        pure (some (base, shadow))
  pure
    { objectFile := entry.1
      name := ((library.objectFile? file).map ObjectFile.name).getD ""
      debugName := library.debugName file
      partialSymbolsRead := library.partialSymbolsRead file
      table := table
      present := (library.tableOf? file).map library.presentNames
      installed := library.isInstalled file
      data := data }

def overviews : List (String × ObjectFileId) → Turn (List ObjectFileOverview)
  | [] => pure []
  | entry :: rest => do
      let first ← overviewOf entry
      let others ← overviews rest
      pure (first :: others)

def spaceName (session : Session) (id : SpaceId) : String :=
  ((session.spaces.find? fun entry => entry.2 = id).map (·.1)).getD ""

def overview : Turn Answer := do
  let session ← session
  let library ← library
  let objectFiles ← overviews session.objectFiles
  pure (.report (.overview
    { debug := library.debug
      sentence := library.showDebug
      spaces := library.registry.map fun id =>
        (spaceName session id, (library.owned id).map session.objectFileName)
      objectFiles := objectFiles }))

end ReaderTrace.Script.Turn
