import ReaderTrace.Script.Turn

/-!
The tables and quick functions that a script makes, and its assignments to
them.

Every function gets a label with the name of its owner, under which its calls
are shown from then on, also after a shadow has taken it over.
-/

namespace ReaderTrace.Script.Turn

/-! ### Declaring tables and quick functions -/

def newBehaved (owner : String) (name : String) (behaviors : List Behavior) : Turn FunctionId :=
  newFunction (.method owner name) behaviors

def newSlotFunctions (owner : String) :
    List (Slot × List Behavior) → Turn (List (Slot × FunctionId))
  | [] => pure []
  | (slot, behaviors) :: rest => do
      let function ← newBehaved owner slot.name behaviors
      let others ← newSlotFunctions owner rest
      pure ((slot, function) :: others)

def newProbeTable (owner : String) (behaviors : List Behavior) : Turn ProbeTableId := do
  let function ← newBehaved owner probesName behaviors
  let outcome ← edit (Edit.newProbeTable function)
  modifySession fun session =>
    { session with
      probeTableNames := session.probeTableNames ++ [owner ++ "." ++ probeTableName] }
  match outcome with
  | .ok id => pure id
  | .error _ => throw (.unbound owner)

/-- A place whose content the table has itself or shows through from behind. -/
def placeOf {α : Type} (content : Option α) (inherited emptied : Bool) : Layered α :=
  let own : Option (Option α) :=
    if emptied then some none
    else if inherited then none
    else content.map some
  { own := own, behind := if inherited then content else none }

def declareTable (name : String) (slots : List (Slot × List Behavior))
    (probes : Option (List Behavior)) (inherited emptied : List TablePlace) : Turn Answer := do
  let functions ← newSlotFunctions name slots
  let probeTable ←
    match probes with
    | none => pure none
    | some behaviors => do
        let id ← newProbeTable name behaviors
        pure (some id)
  let table : ReaderTable :=
    { functions := fun slot =>
        placeOf (functions.lookup slot) (inherited.contains (.slot slot))
          (emptied.contains (.slot slot))
      probes := placeOf probeTable (inherited.contains .probeTable)
        (emptied.contains .probeTable) }
  let outcome ← edit (Edit.newReaderTable table)
  answerTo (fun id => do
    modifySession fun session =>
      { session with readerTableNames := session.readerTableNames ++ [name] }
    bindTable name (.reader id)
    pure .done) outcome

def defaultBehavior : QuickFunction → Behavior
  | .hasSymbols => .behave [] (.returns (.boolean false))
  | .mapSymtabsMatchingFilename => .behave [] (.returns (.boolean false))
  | .findLastSourceSymtab => .behave [] (.returns .null)
  | .lookupSymbol => .behave [] (.returns .null)
  | .findCompunitSymtabByAddress => .behave [] (.returns .null)
  | .findPcSectCompunitSymtab => .behave [] (.returns .null)
  | .lookupGlobalSymbolLanguage =>
      .behave [] (.returns (.reference
        (.declared none (.language { language := .unknown, found := false }))))
  | _ => .behave [] (.returns .absent)

def isProvided (described : List (QuickFunction × List Behavior))
    (function : QuickFunction) : Bool :=
  function != .canLazilyReadSymbols || (described.lookup function).isSome

def newQuickFunctions (owner : String) (described : List (QuickFunction × List Behavior)) :
    List QuickFunction → Turn (List (QuickFunction × FunctionId))
  | [] => pure []
  | function :: rest => do
      let behaviors := (described.lookup function).getD [defaultBehavior function]
      let id ← newBehaved owner function.name behaviors
      let others ← newQuickFunctions owner described rest
      pure ((function, id) :: others)

def declareQuickFunctions (name : String) (described : List (QuickFunction × List Behavior)) :
    Turn Answer := do
  let functions ← newQuickFunctions name described (QuickFunction.all.filter (isProvided described))
  let outcome ← edit (Edit.newQuickFunctions
    { answersLazyReading := isProvided described .canLazilyReadSymbols })
  answerTo (fun id => do
    modifySession fun session =>
      { session with
        quickObjects := (name, id) :: session.quickObjects
        quickFunctions := session.quickFunctions ++ [(name, functions)] }
    pure .done) outcome

/-! ### Assigning to tables -/

/-- The table and the name that its new functions are shown under. Choosing
the active table of an object file names the table. -/
def assignedTable (choice : TableChoice) : Turn (Option (TableRef × String)) := do
  let table ← chosenTable choice
  match choice, table with
  | _, none => pure none
  | .active _, some table => do
      let name ← nameTable table
      pure (some (table, name))
  | .named _, some table => do
      let session ← session
      pure (some (table, session.tableName table))

def assignSlot (choice : TableChoice) (slot : Slot) (behaviors : Option (List Behavior)) :
    Turn Answer := do
  match ← assignedTable choice with
  | none => pure (.failed (.fault .frozenTable))
  | some (table, owner) => do
      let function ←
        match behaviors with
        | none => pure none
        | some behaviors => do
            let id ← newBehaved owner slot.name behaviors
            pure (some id)
      let outcome ← edit (Edit.assignSlot table slot function)
      done outcome

def assignProbeTable (choice : TableChoice) (behaviors : Option (List Behavior)) :
    Turn Answer := do
  match ← assignedTable choice with
  | none => pure (.failed (.fault .frozenTable))
  | some (table, owner) => do
      let probes ←
        match behaviors with
        | none => pure none
        | some behaviors => do
            let id ← newProbeTable owner behaviors
            pure (some id)
      let outcome ← edit (Edit.assignProbeTable table probes)
      done outcome

def assignProbes (choice : TableChoice) (behaviors : List Behavior) : Turn Answer := do
  match ← assignedTable choice with
  | none => pure (.failed (.fault .frozenTable))
  | some (table, owner) => do
      let function ← newBehaved owner probesName behaviors
      let outcome ← edit (Edit.assignProbes table function)
      done outcome

end ReaderTrace.Script.Turn
