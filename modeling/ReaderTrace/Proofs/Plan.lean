import ReaderTrace.Proofs.Rooted
import ReaderTrace.Proofs.Trail

/-!
Calls of a reader's functions, round by round.

A call that finds its object file logged goes through a call record, the call
itself and perhaps a result record; any other is made in silence. For a live
file the debug setting decides which of the two it is, at the moment at which
the operation makes the call.
-/

namespace ReaderTrace

open Routine

/-- A call of a reader's function for an object file. A detached function was
taken out of its table before it is called. -/
structure ReaderCall where
  method : Option Slot
  detached : Bool
  /-- The arguments after the object file. -/
  arguments : List Value

/-! ### The rounds of one call -/

namespace ReaderCall

def ofSlot (slot : Slot) (arguments : List Value) : ReaderCall :=
  { method := some slot, detached := false, arguments := arguments }

variable (call : ReaderCall) (file : ObjectFileId)

def passed : List Value :=
  .objectFile file :: call.arguments

/-- What the call finds in the active table. -/
def find? (library : Library) : Option (Receiver × TableFunction) :=
  (library.tableOf? file).bind fun table => library.method? table call.method

theorem find?_of_active {library : Library} {table : TableRef}
    (active : library.tableOf? file = some table) :
    call.find? file library = library.method? table call.method := by
  unfold find?
  rw [active]
  rfl

def label : String :=
  (call.method.elim TableLabel.probes fun _ => TableLabel.symbols).name

def name : String :=
  call.method.elim probesName Slot.name

/-- The operation makes the call, and the file is not to be logged. -/
structure Silent (asked : Asked) : Prop where
  made : ∃ receiver client, call.find? file asked.library = some (receiver, .client client) ∧
    asked.request =
      .function client (if call.detached then none else some receiver) (call.passed file)
  off : asked.library.Lists file → asked.library.debug = false

/-- The call record is written, and the file is to be logged. -/
structure Announces (asked : Asked) : Prop where
  written : ∃ book, asked.request = .write asked.library.stream
    (Record.call call.label call.name (asked.library.debugName file)
      (Record.renderAll (call.arguments.filter (· ≠ .objectFile file)) book).1)
  on : asked.library.Lists file → asked.library.debug = true

/-- The call is made that was found when `record` was written. -/
def Forwards (record asked : Asked) : Prop :=
  ∃ receiver how client,
    call.find? file record.library = some (receiver, .forward how (.client client)) ∧
    asked.request = .function client (some how.receiver) (call.passed file)

/-- The result record is written. -/
def Reports (value : Value) (asked : Asked) : Prop :=
  ∃ book, asked.request = .write asked.library.stream
    (Record.result call.label call.name (Record.render value book).1)

/-- What is asked while the call is made, after those rounds that belong to the
same call. -/
inductive Calling : List Round → Asked → Prop
  | silent {asked : Asked} (silent : call.Silent file asked) : Calling [] asked
  | announcing {asked : Asked} (announces : call.Announces file asked) : Calling [] asked
  | announced {record : Round} {asked : Asked} (announces : call.Announces file record.toAsked)
      (forwards : call.Forwards file record.toAsked asked) : Calling [record] asked
  | reporting {record made : Round} {asked : Asked} {value : Value}
      (announces : call.Announces file record.toAsked)
      (forwards : call.Forwards file record.toAsked made.toAsked)
      (returned : made.reply = .returned value) (present : value ≠ .absent)
      (reports : call.Reports value asked) : Calling [record, made] asked

/-- The rounds of a call that has returned. -/
inductive Step : List Round → Prop
  | silent {made : Round} (silent : call.Silent file made.toAsked) : Step [made]
  | unreported {record made : Round} (announces : call.Announces file record.toAsked)
      (forwards : call.Forwards file record.toAsked made.toAsked)
      (absent : made.reply = .returned .absent) : Step [record, made]
  | reported {record made report : Round} {value : Value}
      (announces : call.Announces file record.toAsked)
      (forwards : call.Forwards file record.toAsked made.toAsked)
      (returned : made.reply = .returned value) (present : value ≠ .absent)
      (reports : call.Reports value report.toAsked) : Step [record, made, report]

end ReaderCall

/-! ### The rounds of planned calls -/

/-- The rounds of calls that have returned, one call after another. -/
inductive Steps (file : ObjectFileId) : List ReaderCall → List Round → Prop
  | none : Steps file [] []
  | next {calls : List ReaderCall} {rounds step : List Round} {call : ReaderCall}
      (before : Steps file calls rounds) (last : call.Step file step) :
      Steps file (calls ++ [call]) (rounds ++ step)

/-- The rounds of some of the planned calls, the others having been passed over. -/
def Within (file : ObjectFileId) (plan : List ReaderCall) (rounds : List Round) : Prop :=
  ∃ calls, calls.Sublist plan ∧ Steps file calls rounds

/-- What is asked for one of the planned calls, after the rounds of earlier ones. -/
def During (file : ObjectFileId) (plan : List ReaderCall) (rounds : List Round) (asked : Asked) :
    Prop :=
  ∃ calls call before step, rounds = before ++ step ∧ Steps file calls before ∧
    (calls ++ [call]).Sublist plan ∧ call.Calling file step asked

/-! ### One call -/

section Calls

variable {now : World} {rounds : List Round} {file : ObjectFileId} {call : ReaderCall}

/-- The call finds a client's function, behind a forwarding function when the
file is to be logged. -/
theorem ReaderCall.found {receiver : Receiver} {function : TableFunction}
    (begun : Begun Operation.Genuine now)
    (looked : call.find? file now.library = some (receiver, function)) :
    ∃ client,
      function = .client client ∧ (now.library.Lists file → now.library.debug = false) ∨
      (∃ base,
        function = .forward (now.library.forwarding file call.method base) (.client client)) ∧
        (now.library.Lists file → now.library.debug = true) := by
  obtain ⟨table, active, found⟩ := Option.bind_eq_some_iff.mp looked
  have settled : now.library.Lists file →
      (now.library.debugDataOf? file).isSome = now.library.debug := fun listed =>
    begun.inStep (fun _ genuine => genuine.1) file listed (by rw [active]; rfl)
  have rooted := begun.rooted fun _ genuine => genuine
  obtain ⟨client, ⟨clean, functionEq⟩ | ⟨logged, base, functionEq⟩⟩ := rooted.method? active found
  · refine ⟨client, Or.inl ⟨functionEq, fun listed => ?_⟩⟩
    rw [← settled listed, clean]
    rfl
  · refine ⟨client, Or.inr ⟨⟨base, functionEq⟩, fun listed => ?_⟩⟩
    rw [← settled listed, logged]

/-- How a call ends in a run: normally, after the rounds of one step, or by what
a client threw. -/
def Stepped (call : ReaderCall) (file : ObjectFileId) (rounds : List Round) {α : Type}
    (outcome : Except Raised α) (after : List Round) (later : World) : Prop :=
  ∀ value, outcome = .ok value →
    Begun Operation.Genuine later ∧ ∃ step, after = rounds ++ step ∧ call.Step file step

theorem stepped_raised {α : Type} (raised : Raised) (after : List Round) (later : World) :
    Stepped call file rounds (.error raised : Except Raised α) after later :=
  fun _ impossible => by cases impossible

variable {allowed : List Round → Asked → Prop}

private theorem accounts_silent {receiver : Receiver} {client : FunctionId}
    (looked : call.find? file now.library = some (receiver, .client client))
    (off : now.library.Lists file → now.library.debug = false)
    (asks : ∀ step asked, call.Calling file step asked → allowed (rounds ++ step) asked) :
    Accounts Operation.Genuine allowed
      ((TableFunction.client client).invoke (if call.detached then none else some receiver)
        (call.passed file))
      rounds now (Stepped call file rounds) := by
  have silent : call.Silent file
      { library := now.library
        request := .function client (if call.detached then none else some receiver)
          (call.passed file) } := ⟨⟨receiver, client, looked, rfl⟩, off⟩
  have asked := asks [] _ (.silent silent)
  rw [List.append_nil] at asked
  refine ⟨asked, fun reply later begun => ?_⟩
  cases reply with
  | thrown value => exact stepped_raised _ _ later
  | returned value => exact fun _ _ => ⟨begun, _, rfl, .silent silent⟩

/-- From the moment at which the call record has been written. -/
private theorem accounts_forwarded {record : Round} {receiver : Receiver} {how : Forwarding}
    {client : FunctionId} (announces : call.Announces file record.toAsked)
    (looked : call.find? file record.library = some (receiver, .forward how (.client client)))
    (named : how.resultRecord = Record.result call.label call.name)
    (asks : ∀ step asked, call.Calling file step asked → allowed (rounds ++ step) asked) :
    Accounts Operation.Genuine allowed
      (do
        let result ← (TableFunction.client client).invoke (some how.receiver) (call.passed file)
        if result ≠ .absent then
          let text ← Edit.render result
          discard (Routine.writeRecord (how.resultRecord text))
        pure result)
      (rounds ++ [record]) now (Stepped call file rounds) := by
  have forwards : call.Forwards file record.toAsked
      { library := now.library
        request := .function client (some how.receiver) (call.passed file) } :=
    ⟨receiver, how, client, looked, rfl⟩
  refine accounts_ask (asks [record] _ (.announced announces forwards))
    (fun result returned begunReturned => ?_) stepped_raised
  rw [List.append_assoc]
  split
  · next present =>
    refine accounts_edit (fun text shown => ?_) fun error _ => stepped_raised error _ _
    have reports : call.Reports result
        { library := (returned.after (Edit.render result)).library
          request := .write returned.library.stream (how.resultRecord text) } := by
      refine ⟨returned.library.addresses, ?_⟩
      rw [named, ← Except.ok.inj shown]
      rfl
    refine accounts_writeRecord ?_ (fun report later written begunLater => ?_) stepped_raised
    · exact asks [record, _] _ (.reporting announces forwards rfl present reports)
    · rw [List.append_assoc]
      refine fun _ _ => ⟨begunLater, _, rfl, .reported announces forwards rfl present ?_⟩
      rw [written]
      exact reports
  · next absent =>
    refine fun _ _ => ⟨begunReturned, _, rfl, .unreported announces forwards ?_⟩
    rw [Classical.not_not.mp absent]

private theorem accounts_announced {base receiver : Receiver} {client : FunctionId}
    (given : Option Receiver)
    (looked : call.find? file now.library =
      some (receiver, .forward (now.library.forwarding file call.method base) (.client client)))
    (on : now.library.Lists file → now.library.debug = true)
    (asks : ∀ step asked, call.Calling file step asked → allowed (rounds ++ step) asked) :
    Accounts Operation.Genuine allowed
      ((TableFunction.forward (now.library.forwarding file call.method base)
        (.client client)).invoke given (call.passed file))
      rounds now (Stepped call file rounds) := by
  have shown : (now.library.forwarding file call.method base).shownArguments (call.passed file) =
      call.arguments.filter (· ≠ .objectFile file) :=
    List.filter_cons_of_neg (by simp [Library.forwarding])
  refine accounts_edit (fun texts rendered => ?_) fun error _ => stepped_raised error _ _
  rw [shown] at rendered ⊢
  have announces : call.Announces file
      { library :=
          (now.after (Edit.renderAll (call.arguments.filter (· ≠ .objectFile file)))).library
        request := .write now.library.stream
          ((now.library.forwarding file call.method base).callRecord texts) } := by
    refine ⟨⟨now.library.addresses, ?_⟩, on⟩
    rw [← Except.ok.inj rendered]
    rfl
  have asked := asks [] _ (.announcing announces)
  rw [List.append_nil] at asked
  refine accounts_writeRecord asked (fun record later written _ => ?_) stepped_raised
  have announcesRecord : call.Announces file record.toAsked := by
    rw [written]
    exact announces
  have lookedRecord : call.find? file record.library = some
      (receiver, .forward (now.library.forwarding file call.method base) (.client client)) := by
    rw [written]
    exact looked
  exact accounts_forwarded announcesRecord lookedRecord rfl asks

/-- A call that finds a function goes through the rounds of one step. -/
theorem accounts_invoke {receiver : Receiver} {function : TableFunction}
    (begun : Begun Operation.Genuine now)
    (looked : call.find? file now.library = some (receiver, function))
    (asks : ∀ step asked, call.Calling file step asked → allowed (rounds ++ step) asked) :
    Accounts Operation.Genuine allowed
      (function.invoke (if call.detached then none else some receiver) (call.passed file))
      rounds now (Stepped call file rounds) := by
  obtain ⟨client, ⟨rfl, off⟩ | ⟨⟨base, rfl⟩, on⟩⟩ := call.found begun looked
  · exact accounts_silent looked off asks
  · exact accounts_announced _ looked on asks

end Calls

/-! ### Planned calls -/

section Plans

variable {now : World} {rounds : List Round} {file : ObjectFileId} {plan whole : List ReaderCall}
  {allowed : List Round → Asked → Prop}

theorem Within.passOver (within : Within file plan rounds) (call : ReaderCall) :
    Within file (plan ++ [call]) rounds := by
  obtain ⟨calls, some, steps⟩ := within
  exact ⟨calls, some.trans (List.sublist_append_left plan [call]), steps⟩

theorem Within.step (within : Within file plan rounds) {call : ReaderCall} {step : List Round}
    (last : call.Step file step) : Within file (plan ++ [call]) (rounds ++ step) := by
  obtain ⟨calls, some, steps⟩ := within
  exact ⟨calls ++ [call], some.append (List.Sublist.refl [call]), .next steps last⟩

theorem Within.during (within : Within file plan rounds) {call : ReaderCall}
    (planned : plan ++ [call] <+: whole) {step : List Round} {asked : Asked}
    (calling : call.Calling file step asked) : During file whole (rounds ++ step) asked := by
  obtain ⟨calls, some, steps⟩ := within
  have covered : (calls ++ [call]).Sublist whole :=
    (some.append (List.Sublist.refl [call])).trans planned.sublist
  exact ⟨calls, call, rounds, step, rfl, steps, covered, calling⟩

/-- An operation that has come so far in its plan. -/
def Passed (file : ObjectFileId) (plan : List ReaderCall) {α : Type} (outcome : Except Raised α)
    (rounds : List Round) (later : World) : Prop :=
  ∀ value, outcome = .ok value → Begun Operation.Genuine later ∧ Within file plan rounds

theorem passed_raised {α : Type} (raised : Raised) (later : World) :
    Passed file plan (.error raised : Except Raised α) rounds later :=
  fun _ impossible => by cases impossible

theorem accounts_planned {call : ReaderCall} {receiver : Receiver} {function : TableFunction}
    (begun : Begun Operation.Genuine now) (within : Within file plan rounds)
    (planned : plan ++ [call] <+: whole)
    (asks : ∀ rounds asked, During file whole rounds asked → allowed rounds asked)
    (looked : call.find? file now.library = some (receiver, function)) :
    Accounts Operation.Genuine allowed
      (function.invoke (if call.detached then none else some receiver) (call.passed file))
      rounds now (Passed file (plan ++ [call])) := by
  refine (accounts_invoke begun looked fun step asked calling =>
    asks _ asked (within.during planned calling)).mono ?_
  intro outcome after later stepped value outcomeEq
  obtain ⟨begunLater, step, afterEq, last⟩ := stepped value outcomeEq
  rw [afterEq]
  exact ⟨begunLater, within.step last⟩

theorem accounts_activeTable {license : Operation → Prop} {β : Type} {next : TableRef → Routine β}
    {post : Except Raised β → List Round → World → Prop}
    (found : ∀ table, now.library.tableOf? file = some table →
      Accounts license allowed (next table) rounds now post)
    (raised : now.library.tableOf? file = none → ∀ error, post (.error error) rounds now) :
    Accounts license allowed (liftM (SymbolFile.activeTable file) >>= next) rounds now post := by
  have unchanged : now.after (SymbolFile.activeTable file) = now := by
    unfold World.after
    rw [SymbolFile.apply_activeTable]
  refine accounts_edit (fun table outcome => ?_) (fun error outcome => ?_)
  · change Accounts _ _ _ _ (now.after (SymbolFile.activeTable file)) _
    rw [unchanged]
    refine found table ?_
    change ((SymbolFile.activeTable file).apply now.library).1 = .ok table at outcome
    rw [SymbolFile.apply_activeTable] at outcome
    cases active : now.library.tableOf? file with
    | none =>
      rw [active] at outcome
      cases outcome
    | some other =>
      rw [active] at outcome
      rw [Except.ok.inj outcome]
  · change post _ _ (now.after (SymbolFile.activeTable file))
    rw [unchanged]
    change ((SymbolFile.activeTable file).apply now.library).1 = .error error at outcome
    rw [SymbolFile.apply_activeTable] at outcome
    cases active : now.library.tableOf? file with
    | none => exact raised active error
    | some other =>
      rw [active] at outcome
      cases outcome

theorem accounts_callPresent {slot : Slot} {arguments : List Value}
    (begun : Begun Operation.Genuine now) (within : Within file plan rounds)
    (planned : plan ++ [.ofSlot slot arguments] <+: whole)
    (asks : ∀ rounds asked, During file whole rounds asked → allowed rounds asked) :
    Accounts Operation.Genuine allowed
      (SymbolFile.callPresent file slot (.objectFile file :: arguments)) rounds now
      (Passed file (plan ++ [.ofSlot slot arguments])) := by
  refine accounts_activeTable (fun table active => ?_) (fun _ error => passed_raised error now)
  apply accounts_library
  cases present : now.library.function? table slot with
  | none => exact fun _ _ => ⟨begun, within.passOver _⟩
  | some function =>
    have looked : (ReaderCall.ofSlot slot arguments).find? file now.library =
        some (.table table, function) := by
      rw [ReaderCall.find?_of_active _ _ active]
      exact congrArg (Option.map _) present
    refine Accounts.bind (accounts_planned begun within planned asks looked) ?_ ?_
    · exact fun value _ _ passed _ _ => passed value rfl
    · exact fun error _ later _ => passed_raised error later

end Plans

end ReaderTrace
