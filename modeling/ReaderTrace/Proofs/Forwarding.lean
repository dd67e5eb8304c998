import ReaderTrace.Proofs.Invocation
import ReaderTrace.Proofs.Silence
import ReaderTrace.Proofs.Transparency

/-!
What a call of a shadow's function comes to, from its first event to its last.

A forwarding function writes its call record, calls the function that it was built
around, with the arguments that it was given and on the table that it was built for,
and writes its result record where there is a result. The function around which it
was built may be a forwarding function again, so the events are described by
recursion on it: those of the inner call stand where the outer one makes it.

The description is for streams that write: a stream's writing function returns and
leaves the library alone.
-/

namespace ReaderTrace

open Routine

/-! ### Streams that write -/

/-- Writing returns, and nothing is started while it lasts. -/
def Rules.smooth : Rules
  | moment, .started _ => ¬moment.Recording
  | _, .answered _ request reply => request.IsRecord → ∃ value, reply = .returned value
  | _, _ => True

/-- If a record was written, this returned and left the library alone. -/
def Exchange.Smooth (exchange : Exchange) : Prop :=
  exchange.request.IsRecord →
    (∃ value, exchange.reply = .returned value) ∧ exchange.resumed.library = exchange.library

theorem Meanwhile.eq_of_recording {made later : Moment} {frame : Frame} {outer : List Frame}
    (meanwhile : Meanwhile .smooth (frame :: outer) made later)
    (asked : made.pending = frame :: outer) (record : frame.request.IsRecord) : later = made := by
  induction meanwhile with
  | refl => rfl
  | start operation before admissible permitted ih =>
    rw [ih] at permitted
    exact absurd ⟨frame, outer, asked, record⟩ permitted
  | @resume moment answered rest reply before answers kept permitted ih =>
    rw [ih, asked] at answers
    cases answers
    have shorter := kept.length_le
    rw [List.length_cons] at shorter
    omega

theorem Dialogue.smooth {operation : Operation} {outset later : Moment}
    {exchanges : List Exchange} (dialogue : Dialogue .smooth operation outset exchanges later) :
    ∀ exchange ∈ exchanges, exchange.Smooth := by
  induction dialogue with
  | start admissible permitted => intro exchange member; cases member
  | @resume exchanges made later frame reply before asked meanwhile answers permitted ih =>
    intro exchange member
    rcases List.mem_append.mp member with earlier | last
    · exact ih exchange earlier
    · rw [List.mem_singleton.mp last]
      intro record
      have same := meanwhile.eq_of_recording asked record
      exact ⟨permitted record, congrArg (·.library) same⟩

/-! ### The events of an invocation -/

namespace Forwarding

/-- What is left to do when the inner call has come to `outcome`: one result record,
if there is a result. -/
def Concludes (how : Forwarding) (outcome : Except Raised Value) (begun : Library)
    (exchanges : List Exchange) (finish : Library) : Prop :=
  (∃ result report, outcome = .ok result ∧ result ≠ .absent ∧ exchanges = [report] ∧
    how.Reports result begun report.toAsked ∧ finish = report.library) ∨
  ((∀ result, outcome = .ok result → result = .absent) ∧ exchanges = [] ∧ finish = begun)

end Forwarding

namespace TableFunction

/-- From the library `begun` on, an invocation has had the exchanges and has come to
its outcome. -/
def Performs : TableFunction → Option Receiver → List Value → Library → List Exchange →
    Except Raised Value → Library → Prop
  | .client id, receiver, arguments, begun, exchanges, outcome, finish =>
      ∃ exchange : Exchange, exchanges = [exchange] ∧
        exchange.toAsked = { library := begun, request := .function id receiver arguments } ∧
        outcome = exchange.reply.outcome ∧ finish = exchange.resumed.library
  | .forward how target, _, arguments, begun, exchanges, outcome, finish =>
      ∃ (announcement : Exchange) (called reports : List Exchange) (middle : Library),
        exchanges = announcement :: (called ++ reports) ∧
        how.Announces arguments begun announcement.toAsked ∧
        target.Performs (some how.receiver) arguments announcement.library called outcome middle ∧
        how.Concludes outcome middle reports finish

/-- From the library `begun` on, an invocation has had the exchanges and asks for the
next. -/
def Awaits : TableFunction → Option Receiver → List Value → Library → List Exchange →
    Asked → Prop
  | .client id, receiver, arguments, begun, exchanges, asked =>
      exchanges = [] ∧ asked = { library := begun, request := .function id receiver arguments }
  | .forward how target, _, arguments, begun, exchanges, asked =>
      (exchanges = [] ∧ how.Announces arguments begun asked) ∨
      ∃ (announcement : Exchange) (called : List Exchange), exchanges = announcement :: called ∧
        how.Announces arguments begun announcement.toAsked ∧
        (target.Awaits (some how.receiver) arguments announcement.library called asked ∨
          ∃ result middle, result ≠ .absent ∧
            target.Performs (some how.receiver) arguments announcement.library called
              (.ok result) middle ∧
            how.Reports result middle asked)

end TableFunction

/-! ### An invocation has these events -/

section Invocation

variable {function : TableFunction} {receiver : Option Receiver} {arguments : List Value}
  {begun finish : Library} {exchanges : List Exchange} {outcome : Except Raised Value}
  {how : Forwarding} {asked : Asked}

theorem Forwarding.Announces.smooth {announcement : Exchange}
    (announces : how.Announces arguments begun announcement.toAsked)
    (smooth : announcement.Smooth) :
    (∃ value, announcement.reply = .returned value) ∧
      announcement.resumed.library = announcement.library := by
  apply smooth
  rw [announces.request]
  exact trivial

theorem Forwarding.Closes.concludes {inner : Except Raised Value}
    (closes : how.Closes begun inner exchanges outcome finish)
    (smooth : ∀ exchange ∈ exchanges, Exchange.Smooth exchange) :
    outcome = inner ∧ how.Concludes inner begun exchanges finish := by
  cases closes with
  | @reported result report present reports =>
    have record : report.request.IsRecord := by
      rw [reports.request]
      exact trivial
    obtain ⟨⟨value, replied⟩, same⟩ := smooth report (List.mem_singleton_self report) record
    rw [replied]
    exact ⟨rfl, Or.inl ⟨result, report, rfl, present, rfl, reports, same⟩⟩
  | absent =>
    refine ⟨rfl, Or.inr ⟨fun result same => ?_, rfl, rfl⟩⟩
    exact (Except.ok.inj same).symm
  | raised error => exact ⟨rfl, Or.inr ⟨nofun, rfl, rfl⟩⟩

namespace TableFunction

theorem Completes.performs
    (completes : function.Completes receiver arguments begun exchanges outcome finish)
    (smooth : ∀ exchange ∈ exchanges, Exchange.Smooth exchange) :
    function.Performs receiver arguments begun exchanges outcome finish := by
  induction function generalizing receiver begun exchanges outcome finish with
  | client id => exact completes
  | forward how target ih =>
    obtain ⟨announcement, own, rfl, announces, ended⟩ := completes
    obtain ⟨⟨value, returned⟩, same⟩ :=
      announces.smooth (smooth announcement (List.mem_cons_self ..))
    obtain ⟨_, thrown, _⟩ | ⟨_, called, reports, inner, middle, _, rfl, performed, closes⟩ := ended
    · rw [returned] at thrown
      cases thrown
    · have smoothOwn : ∀ exchange ∈ called ++ reports, Exchange.Smooth exchange :=
        fun exchange member => smooth exchange (List.mem_cons_of_mem _ member)
      obtain ⟨rfl, concludes⟩ := closes.concludes fun exchange member =>
        smoothOwn exchange (List.mem_append_right _ member)
      rw [same] at performed
      exact ⟨announcement, called, reports, middle, rfl, announces,
        ih performed (fun exchange member => smoothOwn exchange (List.mem_append_left _ member)),
        concludes⟩

theorem Requests.awaits (requests : function.Requests receiver arguments begun exchanges asked)
    (smooth : ∀ exchange ∈ exchanges, Exchange.Smooth exchange) :
    function.Awaits receiver arguments begun exchanges asked := by
  induction function generalizing receiver begun exchanges with
  | client id => exact requests
  | forward how target ih =>
    obtain first | ⟨announcement, written, called, rfl, announces, _, next⟩ := requests
    · exact Or.inl first
    · obtain ⟨_, same⟩ := announces.smooth (smooth announcement (List.mem_cons_self ..))
      have smoothCalled : ∀ exchange ∈ called, Exchange.Smooth exchange :=
        fun exchange member => smooth exchange (List.mem_cons_of_mem _ member)
      rw [same] at next
      refine Or.inr ⟨announcement, called, rfl, announces, ?_⟩
      obtain inner | ⟨result, middle, present, completes, reports⟩ := next
      · exact Or.inl (ih inner smoothCalled)
      · exact Or.inr ⟨result, middle, present, completes.performs smoothCalled, reports⟩

end TableFunction

/-- Where streams write, an invocation asks for what it should, and what it has asked
for when it ends is all of it. -/
theorem conducts_performs {during : List Exchange → World → Call → Prop} {now : World}
    (function : TableFunction) (receiver : Option Receiver) (arguments : List Value)
    (allows : ∀ own later request,
      ((∀ exchange ∈ own, Exchange.Smooth exchange) →
        function.Awaits receiver arguments now.library own
          { library := World.library later, request := request }) →
      during (exchanges ++ own) later request) :
    Conducts during (function.invoke receiver arguments) exchanges now fun outcome after finish =>
      ∃ own, after = exchanges ++ own ∧
        ((∀ exchange ∈ own, Exchange.Smooth exchange) →
          function.Performs receiver arguments now.library own outcome finish.library) := by
  have asks : ∀ own later request, function.Asking receiver arguments now own later request →
      during (exchanges ++ own) later request :=
    fun own later request asking => allows own later request asking.requests.awaits
  apply (conducts_completes function receiver arguments asks).mono
  intro outcome after finish ⟨own, afterEq, ending⟩
  exact ⟨own, afterEq, ending.completes.performs⟩

end Invocation

/-! ### Calling a method of a table -/

section Methods

variable {source : TableSource} {table : TableRef} {method : Option Slot} {begun : World}

theorem conducts_callMethod_missing (arguments : List Value) (detached : Bool)
    (sourceEq : source.table? begun.library = some table)
    (missing : begun.library.method? table method = none) :
    Conducts (fun _ _ _ => False) (Operation.callMethod source method arguments detached).routine []
      begun fun outcome exchanges now => outcome = .ok .missing ∧ exchanges = [] ∧ now = begun := by
  apply conducts_library
  have looked : ((source.table? begun.library).bind fun table =>
      begun.library.method? table method) = none := by
    rw [sourceEq]
    exact missing
  rw [looked]
  exact ⟨rfl, rfl, rfl⟩

theorem conducts_callMethod {receiver : Receiver} {function : TableFunction}
    (arguments : List Value) (detached : Bool)
    (sourceEq : source.table? begun.library = some table)
    (present : begun.library.method? table method = some (receiver, function)) :
    Conducts
      (fun exchanges now request => (∀ exchange ∈ exchanges, Exchange.Smooth exchange) →
        function.Awaits (if detached then none else some receiver) arguments begun.library exchanges
          { library := now.library, request := request })
      (Operation.callMethod source method arguments detached).routine [] begun
      fun outcome exchanges now => (∀ exchange ∈ exchanges, Exchange.Smooth exchange) →
        ∃ returned, outcome = returned.map Result.value ∧
          function.Performs (if detached then none else some receiver) arguments begun.library
            exchanges returned now.library := by
  apply conducts_library
  have looked : ((source.table? begun.library).bind fun table =>
      begun.library.method? table method) = some (receiver, function) := by
    rw [sourceEq]
    exact present
  rw [looked]
  apply (conducts_performs function _ arguments fun _ _ _ awaits => awaits).bind
  · rintro value _ now ⟨own, rfl, performs⟩ smooth
    exact ⟨.ok value, rfl, performs smooth⟩
  · rintro error _ now ⟨own, rfl, performs⟩ smooth
    exact ⟨.error error, rfl, performs smooth⟩

end Methods

/-! ### The statement about runs -/

/-- Where an operation stands that calls a forwarding function: it waits for the reply
to the next event of the invocation, or it has had all of them and hands on what the
invocation has come to. -/
inductive Forwarded (operation : Operation) (outset : Moment) (how : Forwarding)
    (target : TableFunction) (arguments : List Value) (exchanges : List Exchange) : Moment → Prop
  | waiting {now : World} {request : Call} {next : Reply → Routine Result}
      (awaits : (TableFunction.forward how target).Awaits none arguments outset.library exchanges
        { library := now.library, request := request }) :
      Forwarded operation outset how target arguments exchanges
        { now.note (.called operation request) with
          pending := { operation := operation, request := request, next := next } ::
            outset.pending }
  | ended {now : World} {outcome : Except Raised Value}
      (performs : (TableFunction.forward how target).Performs none arguments outset.library
        exchanges outcome now.library) :
      Forwarded operation outset how target arguments exchanges
        { now.note (.finished operation (outcome.map Result.value)) with
          pending := outset.pending }

/-- A method of a shadow is called, in any run in which streams write, whatever has
become of the shadow since it was built. If its base table had no such function then,
nothing is called and nothing is found. Otherwise the record of the call is written,
with the present name of the host; the function that the base table had then is
called on that table, with the same arguments, and has its own events; and the record
of the result is written where there is one. What the function comes to is handed on.
The function that a reader's own table had is a client's, and its one event is the
call. -/
theorem Reachable.forwards_and_logs {outset : Moment} (reachable : Reachable .smooth outset)
    {id : ShadowId} {shadow : Shadow} (found : outset.library.shadows[id.index]? = some shadow) :
    ∃ past, Begun (fun _ => True) past ∧ Path (fun _ => True) past outset.toWorld ∧
      shadow = Shadow.build past.library shadow.base shadow.host ∧
      ∀ source method arguments detached exchanges later,
        source.table? outset.library = some (.shadow id) →
        Dialogue .smooth (.callMethod source method arguments detached) outset exchanges later →
        (past.library.method? shadow.base method = none ∧ exchanges = [] ∧
          later = { (outset.note (.started (.callMethod source method arguments detached))).note
            (.finished (.callMethod source method arguments detached) (.ok .missing)) with
              pending := outset.pending }) ∨
        ∃ receiver target, past.library.method? shadow.base method = some (receiver, target) ∧
          (shadow.base.Real → ∃ client, target = .client client) ∧
          Forwarded (.callMethod source method arguments detached) outset
            (outset.library.forwarding shadow.host method receiver) target arguments exchanges
            later := by
  obtain ⟨past, begunPast, path, _, built, nameEq⟩ := Begun.named reachable.begun_free found
  refine ⟨past, begunPast, path, built, ?_⟩
  intro source method arguments detached exchanges later sourceEq dialogue
  have foundBuilt := found
  rw [built] at foundBuilt
  have looked := Library.method?_shadow foundBuilt method
  cases inner : past.library.method? shadow.base method with
  | none =>
    rw [inner] at looked
    cases dialogue.standing reachable
      (conducts_callMethod_missing arguments detached sourceEq looked) with
    | waiting asks onward => exact absurd asks not_false
    | ended meets =>
      obtain ⟨rfl, exchangesEq, rfl⟩ := meets
      exact Or.inl ⟨rfl, exchangesEq, rfl⟩
  | some pair =>
    obtain ⟨receiver, target⟩ := pair
    rw [inner] at looked
    have sameForwarding : past.library.forwarding shadow.host method receiver =
        outset.library.forwarding shadow.host method receiver := by
      unfold Library.forwarding
      rw [nameEq]
    refine Or.inr ⟨receiver, target, rfl, ?_, ?_⟩
    · rintro ⟨reader, baseEq⟩
      rw [baseEq] at inner
      exact Library.method?_reader inner
    · rw [← sameForwarding]
      cases dialogue.standing reachable
        (conducts_callMethod arguments detached sourceEq looked) with
      | waiting asks onward => exact .waiting (asks dialogue.smooth)
      | ended meets =>
        obtain ⟨returned, rfl, performs⟩ := meets dialogue.smooth
        exact .ended performs

/-- A function is taken out of the shadow and called with its host and a number. While
the reader's function runs, the client sends the records to another stream. -/
theorem forwards_and_logs_initialized :
    ∃ exchanges later,
      Dialogue .smooth (.callMethod (.active { index := 0 }) (some .init)
        [.objectFile { index := 0 }, .integer 2] true) Moment.initialized exchanges later ∧
      (exchanges.map fun exchange => exchange.request) =
        [.write .console "sf->init (a.out, 0x2)",
          .function { index := 1 } (some (.table (.reader { index := 0 })))
            [.objectFile { index := 0 }, .integer 2],
          .write (.named "log") "sf->init (...) = true"] ∧
      ∃ receiver target, Forwarded
        (.callMethod (.active { index := 0 }) (some .init)
          [.objectFile { index := 0 }, .integer 2] true) Moment.initialized
        (Moment.initialized.library.forwarding { index := 0 } (some .init) receiver) target
        [.objectFile { index := 0 }, .integer 2] exchanges later := by
  have quiet : ∀ {moment : Moment}, moment.pending = [] → ¬moment.Recording := by
    intro moment idle ⟨frame, rest, waiting, _⟩
    rw [idle] at waiting
    cases waiting
  have calling : ∀ {moment : Moment} {frame : Frame}, moment.pending = [frame] →
      ¬frame.request.IsRecord → ¬moment.Recording := by
    intro moment frame waits other ⟨waiting, rest, waitingEq, record⟩
    rw [waits] at waitingEq
    cases waitingEq
    exact other record
  have reachable : Reachable .smooth Moment.initialized :=
    reachable_initialized fun idle _ => quiet idle
  have asked : Dialogue .smooth (.callMethod (.active { index := 0 }) (some .init)
      [.objectFile { index := 0 }, .integer 2] true) Moment.initialized [] _ :=
    .start trivial (quiet rfl)
  have announced := asked.resume (.returned .absent) rfl .refl rfl fun _ => ⟨_, rfl⟩
  have redirected := announced.resume (.returned (.boolean true)) rfl
    (.start (.setStream (.named "log")) .refl trivial (calling rfl not_false)) rfl
    fun impossible => absurd impossible not_false
  have reported := redirected.resume (.returned .absent) rfl .refl rfl fun _ => ⟨_, rfl⟩
  obtain ⟨past, _, _, _, calls⟩ := @Reachable.forwards_and_logs _ reachable { index := 0 } _ rfl
  rcases calls _ _ _ _ _ _ rfl reported with ⟨_, impossible, _⟩ | ⟨receiver, target, _, _, forwarded⟩
  · cases impossible
  · exact ⟨_, _, reported, by decide, receiver, target, forwarded⟩

end ReaderTrace
