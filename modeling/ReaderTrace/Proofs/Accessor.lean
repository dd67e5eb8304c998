import ReaderTrace.Proofs.Coupling
import ReaderTrace.Proofs.Pairing
import ReaderTrace.Proofs.Parameters

/-!
What a traced accessor comes to, from its first event to its last.

The debug setting and the stream stay as they are throughout, for the description is
for streams and quick functions that leave them alone. The calls of an accessor are
then known before the first of them is made, but for the record of a result that is
not there yet.
-/

namespace ReaderTrace

open Routine

/-- The library in which an operation that began in `begun` had control last when it
was given control. -/
def Library.latest (begun : Library) (exchanges : List Exchange) : Library :=
  (exchanges.getLast?.map fun exchange => exchange.resumed.library).getD begun

/-! ### The calls of an accessor -/

namespace QuickRequest

section Calls

variable (request : QuickRequest Value) (file : ObjectFileId) (begun : Library)

/-- The write of the call record, while the debug setting is on. -/
def announcement : List Call :=
  if begun.debug then
    [.write begun.stream
      (Record.call "qf" request.function.name (begun.debugName file)
        (request.texts begun.addresses))]
  else []

/-- The call of the quick function, where the object file has any. -/
def inquiry : List Call :=
  (begun.quickOf? file).toList.map fun functions =>
    .quick functions request.function
      (.objectFile file :: request.function.signature.map request.given)

/-- The write of the result record, while the debug setting is on and for a result
that is recorded. What the objects of clients hold by then is `contents`. -/
def report (contents : ObjectId → Content) (result : Value) : List Call :=
  if begun.debug then
    (ResultKind.text? contents request.function.yields result).toList.map fun text =>
      .write begun.stream (Record.result "qf" request.function.name text)
  else []

theorem announcement_off (off : begun.debug = false) : request.announcement file begun = [] :=
  if_neg (by rw [off]; exact Bool.false_ne_true)

theorem announcement_on (on : begun.debug = true) :
    request.announcement file begun =
      [.write begun.stream
        (Record.call "qf" request.function.name (begun.debugName file)
          (request.texts begun.addresses))] :=
  if_pos on

theorem inquiry_none (nobody : begun.quickOf? file = none) : request.inquiry file begun = [] := by
  unfold inquiry
  rw [nobody]
  rfl

theorem inquiry_some {functions : QuickId} (quick : begun.quickOf? file = some functions) :
    request.inquiry file begun =
      [.quick functions request.function (.objectFile file :: request.arguments)] := by
  unfold inquiry
  rw [quick, request.arguments_eq]
  rfl

variable {contents : ObjectId → Content} {result : Value}

theorem report_off (off : begun.debug = false) : request.report begun contents result = [] :=
  if_neg (by rw [off]; exact Bool.false_ne_true)

theorem report_unrecorded
    (unrecorded : ResultKind.text? contents request.function.yields result = none) :
    request.report begun contents result = [] := by
  unfold report
  rw [unrecorded]
  exact ite_self _

theorem report_on (on : begun.debug = true) {text : String}
    (shown : ResultKind.text? contents request.function.yields result = some text) :
    request.report begun contents result =
      [.write begun.stream (Record.result "qf" request.function.name text)] := by
  unfold report
  rw [if_pos on, shown]
  rfl

/-- What the quick function has come to with the last of the exchanges. Where none
is asked it is the fallback. -/
def Answers (exchanges : List Exchange) (outcome : Except Raised Value) : Prop :=
  match begun.quickOf? file with
  | none => outcome = .ok request.function.yields.fallback
  | some _ => ∃ exchange, exchanges.getLast? = some exchange ∧ outcome = exchange.reply.outcome

/-- The next call after the exchanges. -/
inductive Asks (exchanges : List Exchange) (call : Call) : Prop
  | opening
      (next : (exchanges.map fun exchange => exchange.request) ++ [call] <+:
        request.announcement file begun ++ request.inquiry file begun)
  | report {result : Value}
      (opened : (exchanges.map fun exchange => exchange.request) =
        request.announcement file begun ++ request.inquiry file begun)
      (answers : request.Answers file begun exchanges (.ok result))
      (next : request.report begun (begun.latest exchanges).contents result = [call])

/-- What the accessor has come to with the exchanges. -/
inductive ComesTo (exchanges : List Exchange) : Except Raised Value → Prop
  | raised {error : Raised}
      (opened : (exchanges.map fun exchange => exchange.request) =
        request.announcement file begun ++ request.inquiry file begun)
      (answers : request.Answers file begun exchanges (.error error)) :
      ComesTo exchanges (.error error)
  | returned {consulted reported : List Exchange} {result : Value}
      (whole : exchanges = consulted ++ reported)
      (opened : (consulted.map fun exchange => exchange.request) =
        request.announcement file begun ++ request.inquiry file begun)
      (answers : request.Answers file begun consulted (.ok result))
      (reports : (reported.map fun exchange => exchange.request) =
        request.report begun (begun.latest consulted).contents result) :
      ComesTo exchanges
        (.ok (if request.function.yields = .unrecorded then .absent else result))

end Calls

end QuickRequest

/-- The first call is made in `first`, and each other one in the library that the
reply before it has left. -/
def Unaltered : Library → List Exchange → Library → Prop
  | first, [], now => now = first
  | first, exchange :: rest, now =>
      exchange.library = first ∧ Unaltered exchange.resumed.library rest now

theorem Unaltered.concat {first now : Library} {exchanges : List Exchange} {exchange : Exchange}
    (unaltered : Unaltered first exchanges now) (asked : exchange.library = now) :
    Unaltered first (exchanges ++ [exchange]) exchange.resumed.library := by
  induction exchanges generalizing first with
  | nil => exact ⟨asked.trans unaltered, rfl⟩
  | cons head rest ih => exact ⟨unaltered.1, ih unaltered.2⟩

theorem Unaltered.latest {first now : Library} {exchanges : List Exchange}
    (unaltered : Unaltered first exchanges now) : now = first.latest exchanges := by
  induction exchanges generalizing first with
  | nil => exact unaltered
  | cons exchange rest ih =>
    rw [ih unaltered.2]
    unfold Library.latest
    rw [List.getLast?_cons]
    cases rest.getLast? <;> rfl

/-- Whoever was called has left the debug setting and the stream as they were. A
record was written without an error, and a quick function that has returned has
returned a result of the kind. -/
structure Exchange.Calm (kind : ResultKind) (exchange : Exchange) : Prop where
  debug : exchange.resumed.library.debug = exchange.library.debug
  stream : exchange.resumed.library.stream = exchange.library.stream
  written : exchange.request.IsRecord → ∃ value, exchange.reply = .returned value
  admits : ¬exchange.request.IsRecord →
    ∀ value, exchange.reply = .returned value →
      ResultKind.Admits exchange.resumed.library.contents kind value

/-- What a quick function comes to without an error is of the kind. -/
theorem Exchange.Calm.admits_of_ok {kind : ResultKind} {exchange : Exchange}
    (calm : exchange.Calm kind) {functions : QuickId} {function : QuickFunction}
    {arguments : List Value} (asked : exchange.request = .quick functions function arguments)
    {value : Value} (ok : exchange.reply.outcome = .ok value) :
    ResultKind.Admits exchange.resumed.library.contents kind value := by
  apply calm.admits
  · rw [asked]
    exact not_false
  · cases replied : exchange.reply with
    | returned result =>
      rw [replied] at ok
      rw [Except.ok.inj ok]
    | thrown error =>
      rw [replied] at ok
      cases ok

/-- An accessor that began in `begun` has made the calls, and has done nothing else
but give out the tokens of its call record. -/
structure QuickRequest.Has (request : QuickRequest Value) (begun : Library) (calls : List Call)
    (exchanges : List Exchange) (now : Library) : Prop where
  calls : (exchanges.map fun exchange => exchange.request) = calls
  unaltered : Unaltered { begun with addresses := request.enrolled begun.addresses } exchanges now
  debug : now.debug = begun.debug
  stream : now.stream = begun.stream

section Accessor

variable {request : QuickRequest Value} {file : ObjectFileId} {begun : Library} {now : World}
  {calls : List Call} {exchanges : List Exchange}

theorem QuickRequest.Has.next {exchange : Exchange} {call : Call} {kind : ResultKind}
    (has : request.Has begun calls exchanges now.library) (calm : exchange.Calm kind)
    (asked : exchange.toAsked = { library := now.library, request := call }) :
    request.Has begun (calls ++ [call]) (exchanges ++ [exchange]) exchange.resumed.library where
  calls := by
    have requestEq : exchange.request = call := congrArg Asked.request asked
    rw [List.map_append, has.calls, List.map_singleton, requestEq]
  unaltered := has.unaltered.concat (congrArg Asked.library asked)
  debug := by
    rw [calm.debug, congrArg Asked.library asked]
    exact has.debug
  stream := by
    rw [calm.stream, congrArg Asked.library asked]
    exact has.stream

theorem QuickRequest.Has.contents (has : request.Has begun calls exchanges now.library) :
    now.library.contents = (begun.latest exchanges).contents := by
  rw [has.unaltered.latest]
  unfold Library.latest
  cases exchanges.getLast? <;> rfl

/-- What an accessor may ask, and in which library. -/
def QuickRequest.During (request : QuickRequest Value) (file : ObjectFileId) (begun : Library)
    (exchanges : List Exchange) (now : World) (call : Call) : Prop :=
  request.Asks file begun exchanges call ∧
    Unaltered { begun with addresses := request.enrolled begun.addresses } exchanges now.library

/-- A record is written where it may be. -/
theorem conducts_noted (has : request.Has begun calls exchanges now.library) (record : String)
    (asks : request.Asks file begun exchanges (.write begun.stream record)) :
    ConductsWhile (Exchange.Calm request.function.yields) (request.During file begun)
      (discard (writeRecord record)) exchanges now
      fun outcome after later => ∃ value, outcome = .ok value ∧
        ∃ exchange, after = exchanges ++ [exchange] ∧
        request.Has begun (calls ++ [.write begun.stream record]) after later.library := by
  have during : request.During file begun exchanges now (.write now.library.stream record) := by
    rw [has.stream]
    exact ⟨asks, has.unaltered⟩
  apply (conductsWhile_writeRecord fun _ => during).mono
  intro outcome after later ⟨exchange, afterEq, calm, asked, resumedEq, outcomeEq⟩
  have requestEq : exchange.request = .write now.library.stream record :=
    congrArg Asked.request asked
  obtain ⟨value, returned⟩ := calm.written (by rw [requestEq]; exact trivial)
  rw [has.stream] at asked
  rw [returned] at outcomeEq
  refine ⟨(), outcomeEq, exchange, afterEq, ?_⟩
  rw [afterEq, ← resumedEq]
  exact has.next calm asked

theorem conducts_announces (has : request.Has begun [] [] now.library) :
    ConductsWhile (Exchange.Calm request.function.yields) (request.During file begun)
      (Quick.recordCall begun.debug (begun.debugName file) request
        (request.texts begun.addresses)) [] now
      fun outcome after later => ∃ value, outcome = .ok value ∧
        request.Has begun (request.announcement file begun) after later.library := by
  unfold Quick.recordCall
  cases on : begun.debug with
  | false =>
    rw [request.announcement_off file begun on]
    exact fun _ => ⟨(), rfl, has⟩
  | true =>
    rw [request.announcement_on file begun on]
    have asks : request.Asks file begun []
        (.write begun.stream (Record.call "qf" request.function.name (begun.debugName file)
          (request.texts begun.addresses))) := by
      apply QuickRequest.Asks.opening
      rw [request.announcement_on file begun on]
      exact List.prefix_append _ _
    apply (conducts_noted has _ asks).mono
    intro outcome after later ⟨value, ok, _, _, announced⟩
    exact ⟨value, ok, announced⟩

theorem conducts_inquires
    (has : request.Has begun (request.announcement file begun) exchanges now.library) :
    ConductsWhile (Exchange.Calm request.function.yields) (request.During file begun)
      (Quick.consult (begun.quickOf? file) file request) exchanges now
      fun outcome after later =>
        request.Has begun (request.announcement file begun ++ request.inquiry file begun) after
          later.library ∧
        request.Answers file begun after outcome ∧
        ∀ result, outcome = .ok result →
          ResultKind.Admits later.library.contents request.function.yields result := by
  cases quick : begun.quickOf? file with
  | none =>
    rw [request.inquiry_none file begun quick, List.append_nil]
    intro _
    refine ⟨has, ?_, ?_⟩
    · unfold QuickRequest.Answers
      rw [quick, request.fallback_eq]
    · intro result resultEq
      rw [← Except.ok.inj resultEq, request.fallback_eq]
      exact ResultKind.admits_fallback _ request.function.yields
  | some functions =>
    have one := request.inquiry_some file begun quick
    have asks : request.During file begun exchanges now
        (.quick functions request.function (.objectFile file :: request.arguments)) := by
      have whole : (exchanges.map fun exchange => exchange.request) ++
          [.quick functions request.function (.objectFile file :: request.arguments)] =
          request.announcement file begun ++ request.inquiry file begun := by
        rw [has.calls, one]
      exact ⟨.opening (whole ▸ List.prefix_rfl), has.unaltered⟩
    apply (conductsWhile_ask fun _ => asks).mono
    intro outcome after later ⟨exchange, afterEq, calm, asked, resumedEq, outcomeEq⟩
    rw [afterEq, ← resumedEq, one]
    refine ⟨has.next calm asked, ?_, ?_⟩
    · unfold QuickRequest.Answers
      rw [quick]
      exact ⟨exchange, List.getLast?_concat, outcomeEq⟩
    · intro result resultEq
      rw [resultEq] at outcomeEq
      exact calm.admits_of_ok (congrArg Asked.request asked) outcomeEq.symm

theorem conducts_reports {result : Value}
    (has : request.Has begun (request.announcement file begun ++ request.inquiry file begun)
      exchanges now.library)
    (answers : request.Answers file begun exchanges (.ok result))
    (admits : ResultKind.Admits now.library.contents request.function.yields result) :
    ConductsWhile (Exchange.Calm request.function.yields) (request.During file begun)
      (Quick.recordResult begun.debug request result) exchanges now
      fun outcome after later => ∃ value, outcome = .ok value ∧
        ∃ reported, after = exchanges ++ reported ∧
        request.Has begun (request.announcement file begun ++ request.inquiry file begun ++
          request.report begun (begun.latest exchanges).contents result) after
          later.library := by
  unfold Quick.recordResult
  cases on : begun.debug with
  | false =>
    rw [request.report_off begun on, List.append_nil]
    exact fun _ => ⟨(), rfl, [], (List.append_nil _).symm, has⟩
  | true =>
    have rendered := Quick.apply_renderResult admits
    rw [← request.resultKind_eq, has.contents] at rendered
    have unchanged : now.after (Quick.renderResult request.resultKind result) = now := by
      unfold World.after
      rw [rendered]
    change ConductsWhile _ _ (Routine.edit (Quick.renderResult request.resultKind result) >>= _)
      exchanges now _
    apply conductsWhile_edit
    · intro text textEq
      rw [rendered, request.resultKind_eq] at textEq
      rw [unchanged, ← Except.ok.inj textEq]
      cases shown : ResultKind.text? (begun.latest exchanges).contents
          request.function.yields result with
      | none =>
        rw [request.report_unrecorded begun shown, List.append_nil]
        exact fun _ => ⟨(), rfl, [], (List.append_nil _).symm, has⟩
      | some text =>
        have one := request.report_on begun on shown
        apply (conducts_noted has _ (.report has.calls answers one)).mono
        intro outcome after later ⟨value, ok, exchange, afterEq, reported⟩
        rw [one]
        exact ⟨value, ok, [exchange], afterEq, reported⟩
    · intro error failed
      rw [rendered] at failed
      cases failed

/-- The accessor from the world in which it was started. -/
theorem conducts_accessor (file : ObjectFileId) (request : QuickRequest Value) (world : World) :
    ConductsWhile (Exchange.Calm request.function.yields) (request.During file world.library)
      (Quick.access file request) [] world
      fun outcome exchanges later =>
        request.ComesTo file world.library exchanges outcome ∧
        Unaltered { world.library with addresses := request.enrolled world.library.addresses }
          exchanges later.library := by
  have rendered := Quick.apply_renderParts_recorded request world.library
  change ConductsWhile _ _ (Routine.edit (Quick.renderParts request.recorded) >>= _) [] world _
  apply conductsWhile_edit
  · intro texts textsEq
    rw [rendered] at textsEq
    cases textsEq
    have enrolled : (world.after (Quick.renderParts request.recorded)).library =
        { world.library with addresses := request.enrolled world.library.addresses } :=
      congrArg Prod.snd rendered
    generalize world.after (Quick.renderParts request.recorded) = now at enrolled ⊢
    have begins : request.Has world.library [] [] now.library :=
      { calls := rfl
        unaltered := enrolled
        debug := by rw [enrolled]
        stream := by rw [enrolled] }
    change ConductsWhile _ _ (Quick.recordCall now.library.debug (now.library.debugName file)
      request (request.texts world.library.addresses) >>= fun _ =>
        Quick.consult (now.library.quickOf? file) file request >>= _) [] now _
    have sameName : now.library.debugName file = world.library.debugName file := by
      rw [enrolled]
      rfl
    have sameQuick : now.library.quickOf? file = world.library.quickOf? file := by
      rw [enrolled]
      rfl
    rw [begins.debug, sameName, sameQuick]
    apply (conducts_announces begins).bind_ok
    intro _ announced later hasAnnounced
    apply (conducts_inquires hasAnnounced).bind
    · intro result consulted after ⟨hasInquired, answers, admits⟩
      change ConductsWhile _ _ (Quick.recordResult after.library.debug request result >>= fun _ =>
        pure (request.answer result)) consulted after _
      rw [hasInquired.debug]
      apply (conducts_reports hasInquired answers (admits result rfl)).bind_ok
      intro _ all finish ⟨reported, allEq, hasReported⟩ _
      refine ⟨?_, hasReported.unaltered⟩
      have reports : (reported.map fun exchange => exchange.request) =
          request.report world.library (world.library.latest consulted).contents result := by
        have callsEq := hasReported.calls
        rw [allEq, List.map_append, hasInquired.calls] at callsEq
        exact List.append_cancel_left callsEq
      rw [request.answer_eq]
      exact .returned allEq hasInquired.calls answers reports
    · intro error consulted after ⟨hasInquired, answers, _⟩
      exact ⟨.raised hasInquired.calls answers, hasInquired.unaltered⟩
  · intro error failed
    rw [rendered] at failed
    cases failed

end Accessor

/-! ### The statement about runs -/

/-- Where an accessor stands after `exchanges`: it waits for the reply to its next
call, or it has ended. -/
inductive Accessing (request : QuickRequest Value) (file : ObjectFileId) (outset : Moment)
    (exchanges : List Exchange) : Moment → Prop
  | waiting {now : World} {call : Call} {next : Reply → Routine Result}
      (asks : request.Asks file outset.library exchanges call)
      (unaltered : Unaltered
        { outset.library with addresses := request.enrolled outset.library.addresses }
        exchanges now.library) :
      Accessing request file outset exchanges
        { now.note (.called (.access file request) call) with
          pending := { operation := .access file request, request := call, next := next } ::
            outset.pending }
  | ended {now : World} {outcome : Except Raised Value}
      (comes : request.ComesTo file outset.library exchanges outcome)
      (unaltered : Unaltered
        { outset.library with addresses := request.enrolled outset.library.addresses }
        exchanges now.library) :
      Accessing request file outset exchanges
        { now.note (.finished (.access file request) (outcome.map Result.value)) with
          pending := outset.pending }

/-- A traced accessor, in any run, with quick functions and streams that leave the
debug setting and the stream alone. While the setting is on it writes its call record
first. Then it calls the quick function of its name once, with the object file and the
parameters in the positions of the signature, or nobody where the object file has no
quick functions; the result is then the fallback. What the quick function throws ends
the accessor and is raised. A result of the five kinds that are recorded is handed on,
and written down while the setting is on; the other accessors have no result. Apart
from this, only the tokens of the call record are given out, and they are so whether
the setting is on or off. -/
theorem Reachable.accessor_end_to_end {outset later : Moment}
    (reachable : Reachable .free outset) {file : ObjectFileId} {request : QuickRequest Value}
    {exchanges : List Exchange}
    (dialogue : Dialogue .free (.access file request) outset exchanges later)
    (calm : ∀ exchange ∈ exchanges, exchange.Calm request.function.yields) :
    Accessing request file outset exchanges later := by
  have conducts : ConductsWhile (Exchange.Calm request.function.yields)
      (request.During file outset.library) (Operation.access file request).routine []
      (outset.note (.started (.access file request)))
      fun outcome exchanges now => ∃ returned, outcome = returned.map Result.value ∧
        request.ComesTo file outset.library exchanges returned ∧
        Unaltered { outset.library with addresses := request.enrolled outset.library.addresses }
          exchanges now.library := by
    apply (conducts_accessor file request (outset.note (.started (.access file request)))).bind
    · exact fun value after now comes _ => ⟨.ok value, rfl, comes⟩
    · exact fun error after now comes => ⟨.error error, rfl, comes⟩
  rcases dialogue.stands reachable conducts calm with
    ⟨now, call, next, ⟨asks, unaltered⟩, rfl⟩ | ⟨now, _, ⟨outcome, rfl, comes, unaltered⟩, rfl⟩
  · exact .waiting asks unaltered
  · exact .ended comes unaltered

/-- A program counter is looked up in a section, while the setting is on. The section
gets the first token. The quick function names the file that it has found before it
returns. -/
theorem accessor_end_to_end_section :
    ∃ request exchanges later,
      Dialogue .free (.access { index := 0 } request) (Moment.equipped.start (.setDebug true))
        exchanges later ∧
      (exchanges.map fun exchange => exchange.request) =
        [.write .console "qf->findPcSectCompunitSymtab (a.out, NULL, 0x401020, 0x1000, false)",
          .quick { index := 0 } .findPcSectCompunitSymtab
            [.objectFile { index := 0 }, .null, .integer 0x401020,
              .reference (.object { index := 0 }), .boolean false],
          .write .console "qf->findPcSectCompunitSymtab (...) = start.S"] ∧
      Accessing request { index := 0 } (Moment.equipped.start (.setDebug true)) exchanges
        later := by
  have may : ∀ {moment : Moment} {happening : Happening}, Rules.free moment happening :=
    fun _ _ => trivial
  have reachable : Reachable .free (Moment.equipped.start (.setDebug true)) :=
    .start (.setDebug true) reachable_equipped trivial may
  have asked : Dialogue .free (.access { index := 0 }
      (.findByCounter .null (.integer 0x401020) (.reference (.object { index := 0 })) false))
      (Moment.equipped.start (.setDebug true)) [] _ :=
    .start trivial may
  have announced := asked.resume (.returned .absent) rfl .refl rfl may
  have found := announced.resume (.returned (.reference (.object { index := 1 }))) rfl
    (.start (.describe { index := 1 } (.compunit "start.S")) .refl trivial may) rfl may
  have reported := found.resume (.returned .absent) rfl .refl rfl may
  refine ⟨_, _, _, reported, by decide +kernel, reachable.accessor_end_to_end reported ?_⟩
  intro exchange member
  simp only [List.nil_append, List.cons_append, List.mem_cons, List.not_mem_nil, or_false] at member
  rcases member with rfl | rfl | rfl
  · exact ⟨rfl, rfl, fun _ => ⟨_, rfl⟩, fun other => absurd trivial other⟩
  · exact ⟨rfl, rfl, fun record => absurd record not_false,
      fun _ value returned => by cases returned; exact .compunit rfl⟩
  · exact ⟨rfl, rfl, fun _ => ⟨_, rfl⟩, fun other => absurd trivial other⟩

end ReaderTrace
