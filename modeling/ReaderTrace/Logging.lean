import ReaderTrace.Edit
import ReaderTrace.Setting.Environment

/-!
Putting the logging on object files and taking it off.

While logging is installed on an object file its active table is a shadow of
the table that was active before, and the side table holds both. The gated
`setTable` and the walk of `setDebug` keep the installed files in step with
the debug setting; `install` and `uninstall` on their own do not.
-/

namespace ReaderTrace

namespace Shadow

/-- The shadow of the table `base` for the calls of `host`: a forwarding
function for every function that the table has now. -/
def build (library : Library) (base : TableRef) (host : ObjectFileId) : Shadow :=
  let forwarding (label : TableLabel) (name : String) (receiver : Receiver) : Forwarding :=
    { label := label, name := name, receiver := receiver, host := host
      hostName := library.debugName host }
  { base := base
    host := host
    functions := fun slot =>
      (library.function? base slot).map
        (.forward (forwarding .symbols slot.name (.table base)))
    probes :=
      (library.probes? base).map fun found =>
        .forward (forwarding .probes probesName (.probes found.1)) found.2 }

end Shadow

namespace Logging

def newShadow (base : TableRef) (host : ObjectFileId) : Edit TableRef := do
  let library ← get
  set { library with shadows := library.shadows ++ [Shadow.build library base host] }
  pure (.shadow { index := library.shadows.length })

def install (file : ObjectFileId) : Edit Unit := do
  let library ← get
  Edit.require (!library.isInstalled file) (.loggingInstalled (library.debugName file))
  match library.tableOf? file with
  | none => Edit.fail (.assertion (.noTableToLog (library.debugName file)))
  | some base =>
      let shadow ← newShadow base file
      modify fun library =>
        { library with
          debugData := library.debugData.associate file { base := base, shadow := shadow } }
      Edit.assignTable file shadow

def uninstall (file : ObjectFileId) : Edit Unit := do
  let library ← get
  Edit.require (library.isInstalled file) (.loggingNotInstalled (library.debugName file))
  match library.debugDataOf? file with
  | none => Edit.fail (.assertion (.loggingNotInstalled (library.debugName file)))
  | some data =>
      Edit.assignTable file data.base
      modify fun library => { library with debugData := library.debugData.clear file }

/-- Sets the active table. Logging that is installed moves over to it, and is
installed when the debug setting is on. -/
def setTable (file : ObjectFileId) (table : TableRef) : Edit Unit := do
  let library ← get
  if library.isInstalled file then
    Edit.require library.debug (.loggingInstalledWhileOff (library.debugName file))
    uninstall file
  Edit.assignTable file table
  if library.debug then
    install file

/-- Brings one object file in line with the debug setting `value`. A file
without a table is left to the first `setTable`. -/
def reconcile (value : Bool) (file : ObjectFileId) : Edit Unit := do
  let library ← get
  if (library.tableOf? file).isSome then
    if value && !library.isInstalled file then
      install file
    else if !value && library.isInstalled file then
      uninstall file

def setDebug (value : Bool) : Edit Unit := do
  modify fun library => { library with debug := value }
  let library ← get
  library.live.forM (reconcile value)

def release (file : ObjectFileId) : Edit Unit := do
  let library ← get
  if library.isInstalled file then
    uninstall file

/-! ### Settings -/

def setCommand (text : String) : Edit Unit :=
  match Setting.parse Setting.debugName text with
  | .error fault => Edit.fail fault
  | .ok value => setDebug value

def apply (configuration : Configuration) : Edit Unit :=
  setDebug configuration.debug

def applyEnvironment (environment : Environment) : Edit Unit :=
  match Configuration.load environment with
  | .error fault => Edit.fail fault
  | .ok configuration => apply configuration

end Logging

end ReaderTrace
