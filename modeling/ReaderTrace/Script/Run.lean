import ReaderTrace.Quick.Access
import ReaderTrace.Script.Overview
import ReaderTrace.Script.Table
import ReaderTrace.SymbolFile

/-!
Running scripts.

A step runs with clients already given, so running one is no recursion. The
clients of a script run steps themselves; `clients` ties the knot with a bound
on how deep calls may nest, and a script that nests deeper is stuck instead of
answered.
-/

namespace ReaderTrace.Script

namespace Turn

/-! ### Streams -/

/-- The names of the stream in place at the start and of the library's own. -/
def mainStream : String := "main"

def consoleStream : String := "default"

def streamOf (name : String) : Stream :=
  if name = consoleStream then .console else .named name

def streamName : Stream → String
  | .console => consoleStream
  | .named name => name

/-- A stream other than the two given ones is made at its first mention. -/
def provideStream (name : String) (behaviors : List Behavior) : Turn Unit := do
  let session ← session
  if name = mainStream || name = consoleStream || (session.streams.lookup name).isSome then
    pure ()
  else do
    let function ← newFunction (.stream name) behaviors
    modifySession fun session =>
      { session with streams := session.streams ++ [(name, function)] }

/-! ### Calling -/

def callMethod (clients : ScriptClients) (choice : TableChoice) (method : Option Slot)
    (arguments : List Literal) (detached : Bool) : Turn Answer := do
  match ← chosenTable choice with
  | none => pure .absent
  | some table => do
      let library ← library
      match library.method? table method with
      | none => pure .absent
      | some (receiver, function) => do
          let arguments ← values arguments
          let outcome ← perform clients
            (function.invoke (if detached then none else some receiver) arguments)
          answerTo reportValue outcome

def callArgument (clients : ScriptClients) (current : List Value) (index : Nat)
    (arguments : List Literal) : Turn Answer := do
  let session ← session
  let function :=
    match current[index]? with
    | some (.reference (.object id)) => (session.objects[id.index]?).bind NamedObject.function
    | _ => none
  match function with
  | none => pure .absent
  | some function => do
      let arguments ← values arguments
      let outcome ← perform clients (Routine.ask (.function function none arguments))
      answerTo reportValue outcome

/-! ### Symbol files -/

/-- The flags of a symbol file; without any they are zero. -/
def flagsOf : Value → Turn Double
  | .number flags => pure flags
  | .absent => pure .zero
  | _ => throw (.misplaced "flags of a symbol file")

/-- The object file is named as soon as it exists, before its table is set. -/
def addSymbolFile (clients : ScriptClients) (space : SpaceId) (binder name : String)
    (table : TableRef) (quick : Option QuickId) (flags : Double) : Turn Answer := do
  let added ← edit (ProgramSpace.addObjectFile space name quick)
  answerTo (fun file => do
    bindObjectFile binder file
    let loaded ← perform clients (SymbolFile.load file table flags)
    answerTo (fun _ => pure (.report (.symbolFile binder))) loaded) added

/-! ### Steps -/

/-- Runs one step. `current` holds the arguments of the scripted function that
runs it; there are none outside such a function. -/
def step (clients : ScriptClients) (current : List Value) : Step → Turn Answer
  | .createSpace binder name => do
      let outcome ← edit (ProgramSpace.create name)
      answerTo (fun id => do
        modifySession fun session => { session with spaces := session.spaces ++ [(binder, id)] }
        let library ← library
        let number := ((library.space? id).map ProgramSpace.number).getD 0
        pure (.report (.space number (library.spaceName id)))) outcome
  | .addObjectFile spaceName binder name quick => do
      let space ← space spaceName
      let quick ← quickObject quick
      let outcome ← edit (ProgramSpace.addObjectFile space name quick)
      answerTo (fun file => do
        bindObjectFile binder file
        let library ← library
        let name := ((library.objectFile? file).map ObjectFile.name).getD ""
        pure (.report (.objectFile name (library.debugName file)))) outcome
  | .removeObjectFile spaceName fileName => do
      let space ← space spaceName
      let file ← objectFile fileName
      let outcome ← perform clients (ProgramSpace.removeObjectFile space file)
      done outcome
  | .dispose spaceName => do
      let space ← space spaceName
      let outcome ← perform clients (ProgramSpace.dispose space)
      done outcome
  | .onDestroyed name behaviors => do
      let function ← newFunction (.destroyedListener name) behaviors
      let outcome ← edit (Event.subscribe destroyedEvent (.client function))
      done outcome
  | .setPartialSymbolsRead fileName value => do
      let file ← objectFile fileName
      let outcome ← edit (Edit.setPartialSymbolsRead file value)
      done outcome
  | .table name slots probes inherited emptied => declareTable name slots probes inherited emptied
  | .quickFunctions name functions => declareQuickFunctions name functions
  | .setSlot choice slot behaviors => assignSlot choice slot behaviors
  | .setProbeTable choice behaviors => assignProbeTable choice behaviors
  | .setProbes choice behaviors => assignProbes choice behaviors
  | .hold binder fileName => do
      let file ← objectFile fileName
      let library ← library
      match library.tableOf? file with
      | none => pure .absent
      | some table => do
          bindTable binder table
          let name ← nameTable table
          pure (.report (.table (some name)))
  | .activeTable fileName => do
      let file ← objectFile fileName
      let library ← library
      let name ← nameTable? (library.tableOf? file)
      pure (.report (.table name))
  | .presentNames choice => do
      let library ← library
      match ← chosenTable choice with
      | none => pure .absent
      | some table => pure (.report (.names (library.presentNames table)))
  | .inspect fileName => do
      let file ← objectFile fileName
      inspect file
  | .call choice method arguments detached => callMethod clients choice method arguments detached
  | .setTable fileName tableName => do
      let file ← objectFile fileName
      let table ← table tableName
      let outcome ← perform clients (SymbolFile.setTable file table)
      done outcome
  | .install fileName => do
      let file ← objectFile fileName
      let outcome ← edit (Logging.install file)
      done outcome
  | .uninstall fileName => do
      let file ← objectFile fileName
      let outcome ← edit (Logging.uninstall file)
      done outcome
  | .isInstalled fileName => do
      let file ← objectFile fileName
      let library ← library
      reportBoolean (library.isInstalled file)
  | .setDebug value => do
      let outcome ← edit (Logging.setDebug value)
      done outcome
  | .getDebug => do
      let library ← library
      reportBoolean library.debug
  | .showDebug => do
      let library ← library
      pure (.report (.text library.showDebug))
  | .setCommand text => do
      let outcome ← edit (Logging.setCommand text)
      done outcome
  | .applyEnvironment environment => do
      let outcome ← edit (Logging.applyEnvironment environment)
      done outcome
  | .setStream name behaviors => do
      provideStream name behaviors
      let outcome ← edit (Edit.setStream (streamOf name))
      answerTo (fun before => pure (.report (.text (streamName before)))) outcome
  | .writeRecord text => do
      let outcome ← perform clients (Routine.writeRecord text)
      answerTo (fun
        | .absent => pure .done
        | value => do
            let session ← session
            pure (.written (session.display value))) outcome
  | .addSymbolFile spaceName binder name tableName quick flags => do
      let space ← space spaceName
      let table ← table tableName
      let quick ← quickObject quick
      let flags ← value flags
      let flags ← flagsOf flags
      addSymbolFile clients space binder name table quick flags
  | .finishSymbolFile spaceName fileName => do
      let space ← space spaceName
      let file ← objectFile fileName
      let outcome ← perform clients (SymbolFile.finish space file)
      done outcome
  | .probes fileName => do
      let file ← objectFile fileName
      let outcome ← perform clients (SymbolFile.probes file)
      answerTo (fun
        | none => pure (.report .noProbes)
        | some value => reportValue value) outcome
  | .relocate fileName sectionInfo buffer => do
      let file ← objectFile fileName
      let sectionInfo ← value sectionInfo
      let buffer ← value buffer
      let outcome ← perform clients (SymbolFile.relocate file sectionInfo buffer)
      answerTo reportValue outcome
  | .hasPartialSymbols fileName => do
      let file ← objectFile fileName
      let outcome ← perform clients (Quick.hasPartialSymbols file)
      answerTo reportValue outcome
  | .quick fileName request => do
      let file ← objectFile fileName
      let request ← request.mapM value
      let outcome ← perform clients (Quick.access file request)
      answerTo reportValue outcome
  | .symbolLanguage fileName name domain => do
      let file ← objectFile fileName
      let outcome ← perform clients (Quick.symbolLanguage file name domain)
      answerTo (fun answer => pure (.report (.language answer))) outcome
  | .createEvent name => do
      let outcome ← edit Event.create
      answerTo (fun id => do
        modifySession fun session => { session with events := (name, id) :: session.events }
        pure .done) outcome
  | .subscribe eventName name behaviors => do
      let event ← event eventName
      let function ← newFunction (.listener name) behaviors
      let outcome ← edit (Event.subscribe event (.client function))
      done outcome
  | .post eventName data => do
      let event ← event eventName
      let data ← value data
      let outcome ← perform clients (Event.post event data)
      done outcome
  | .createSideTable name => do
      modifySession fun session =>
        { session with sideTables := (name, .empty) :: session.sideTables }
      pure .done
  | .associate name key data => do
      let table ← sideTable name
      let key ← referent key
      let data ← value data
      modifySession fun session =>
        { session with sideTables := (name, table.associate key data) :: session.sideTables }
      pure .done
  | .clear name key => do
      let table ← sideTable name
      let key ← referent key
      modifySession fun session =>
        { session with sideTables := (name, table.clear key) :: session.sideTables }
      pure .done
  | .lookup name key => do
      let table ← sideTable name
      let key ← referent key
      reportValue ((table.lookup key).getD .absent)
  | .has name key => do
      let table ← sideTable name
      let key ← referent key
      reportBoolean (table.has key)
  | .state => overview
  | .callArgument index arguments => callArgument clients current index arguments
  | .render literal => do
      let value ← value literal
      let outcome ← edit (Edit.render value)
      answerTo (fun text => pure (.report (.text text))) outcome

/-! ### Scripted functions -/

def callHappening (session : Session) (label : FunctionLabel) (receiver : Option String)
    (arguments : List Value) : Happening :=
  let first := arguments.head?.getD .absent
  match label with
  | .method owner name =>
      .methodCalled (owner ++ "." ++ name) receiver (arguments.map session.display)
  | .callback name => .functionCalled name (arguments.map session.display)
  | .destroyedListener name =>
      .destroyed name
        (match first with
          | .reference (.objectFile file) => session.objectFileName file
          | _ => "")
  | .listener name => .notified name (session.display first)
  | .stream name =>
      .record (.named name)
        (match first with
          | .text text => text
          | _ => "")

/-- Runs the steps of a behaviour; the answer of each is observed after what
happened during it. -/
def nestedSteps (clients : ScriptClients) (arguments : List Value) : List Step → Turn Unit
  | [] => pure ()
  | first :: rest => do
      let answer ← step clients arguments first
      happen (.nested answer)
      nestedSteps clients arguments rest

def ending (arguments : List Value) : Ending → Turn Reply
  | .throws literal => do
      let value ← value literal
      pure (.thrown value)
  | .returnsArgument index => pure (.returned ((arguments[index]?).getD .absent))
  | .returns literal => do
      let value ← value literal
      pure (.returned value)

def callScripted (clients : ScriptClients) (function : FunctionId) (receiver : Option String)
    (arguments : List Value) : Turn Reply := do
  let session ← session
  let scripted ← require "function" session.functions[function.index]?
  happen (callHappening session scripted.label receiver arguments)
  modifySession fun session =>
    { session with
      functions := session.functions.modify function.index fun scripted =>
        { scripted with calls := scripted.calls + 1 } }
  match scripted.next with
  | .behave steps finish => do
      nestedSteps clients arguments steps
      ending arguments finish

/-- Writing to one of the two given streams only observes the record, and
returns how much was observed during the step so far. -/
def observeRecord (stream : Stream) (record : String) : Turn Reply := do
  happen (.record stream record)
  let session ← session
  pure (.returned (.number (.ofInt session.happenings.length)))

def respond (clients : ScriptClients) : Call → Turn Reply
  | .function function receiver arguments => do
      let session ← session
      callScripted clients function (receiver.map session.receiverName) arguments
  | .quick functions function arguments => do
      let session ← session
      let (owner, described) ← require "quick functions" session.quickFunctions[functions.index]?
      let id ← require function.name (described.lookup function)
      callScripted clients id (some owner) arguments
  | .write stream record => do
      let session ← session
      match session.streams.lookup (streamName stream) with
      | some function => callScripted clients function none [.text record]
      | none => observeRecord stream record

end Turn

/-! ### Whole scripts -/

/-- The clients of a script whose calls may nest `depth` deep. -/
def clients : Nat → ScriptClients
  | 0 => fun _ _ _ => .error .tooDeep
  | depth + 1 => fun call library session =>
      match Turn.respond (clients depth) call { library := library, session := session } with
      | .error stuck => .error stuck
      | .ok (reply, stage) => .ok (reply, stage.library, stage.session)

def depth : Nat := 2000

/-- The stage on which a script begins: a fresh library, with the script's own
stream in place. -/
def Stage.initial : Stage :=
  { library := { Library.initial with stream := .named Turn.mainStream }
    session := Session.initial }

structure Observed where
  answer : Answer
  happenings : List Happening
deriving DecidableEq

def observedStep (step : Step) : Turn Observed := do
  Turn.modifySession fun session => { session with happenings := [] }
  let answer ← Turn.step (clients depth) [] step
  let session ← Turn.session
  pure { answer := answer, happenings := session.happenings }

def observedSteps : List Step → Turn (List Observed)
  | [] => pure []
  | first :: rest => do
      let answer ← observedStep first
      let answers ← observedSteps rest
      pure (answer :: answers)

/-- Runs a script on a fresh library: one answer for each step. -/
def run (steps : List Step) : Except Stuck (List Observed) :=
  (observedSteps steps Stage.initial).map (·.1)

end ReaderTrace.Script
