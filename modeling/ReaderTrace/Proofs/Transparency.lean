import ReaderTrace.Proofs.Mirror.Operations

/-!
Logging changes nothing that clients can see.

A run in which clients turn the debug setting on and off is matched by one in
which they leave it off. Both make the same calls, get the same replies and end
their operations alike; only the writing of records is missing from the second.
The plain run waits whenever the traced one waits for anything but a record,
and while a record is written it is already at its next call.
-/

namespace ReaderTrace

/-! ### Runs with the debug setting and without -/

def Moment.Recording (moment : Moment) : Prop :=
  ∃ frame rest, moment.pending = frame :: rest ∧ frame.request.IsRecord

/-- Clients start ordinary operations, none of them while a record is written,
and reply as the types allow. -/
def Rules.ordinary : Rules
  | moment, .started operation => operation.Ordinary moment.library ∧ ¬moment.Recording
  | moment, .answered _ request reply => request.Admits moment.library.contents reply
  | _, _ => True

def Rules.untoggled : Rules := fun moment happening =>
  Rules.ordinary moment happening ∧
    ∀ operation, happening = .started operation → operation.toggles = false

/-- What is left of a happening when the debug setting is never touched. -/
def Happening.untraced : Happening → Option Happening
  | .started operation => if operation.toggles then none else some (.started operation)
  | .finished operation outcome =>
      if operation.toggles then none else some (.finished operation outcome)
  | .called _ (.write _ _) => none
  | .called operation request => some (.called operation (operation.view request))
  | .answered _ (.write _ _) _ => none
  | .answered operation request reply =>
      some (.answered operation (operation.view request) reply)
  | .reached milestone => some (.reached milestone)

def World.untraced (world : World) : List Happening :=
  world.history.filterMap Happening.untraced

theorem World.untraced_note (world : World) (happening : Happening) :
    (world.note happening).untraced = world.untraced ++ happening.untraced.toList := by
  change (world.history ++ [happening]).filterMap Happening.untraced = _
  rw [List.filterMap_append]
  cases shown : happening.untraced with
  | none => simp [World.untraced, shown]
  | some other => simp [World.untraced, shown]

theorem World.untraced_silent (world : World) {happening : Happening}
    (silent : happening.untraced = none) : (world.note happening).untraced = world.untraced := by
  rw [World.untraced_note, silent]
  exact List.append_nil _

section Shown

variable {operation : Operation}

private theorem untraced_started (kept : operation.toggles = false) :
    (Happening.started operation).untraced = some (.started operation) := by
  simp [Happening.untraced, kept]

private theorem untraced_finished (kept : operation.toggles = false)
    (outcome : Except Raised Result) :
    (Happening.finished operation outcome).untraced = some (.finished operation outcome) := by
  simp [Happening.untraced, kept]

private theorem untraced_called {request : Call} (asks : ¬request.IsRecord) :
    (Happening.called operation request).untraced =
      some (.called operation (operation.view request)) := by
  cases request with
  | write stream text => exact absurd trivial asks
  | _ => rfl

private theorem untraced_answered {request : Call} (asks : ¬request.IsRecord) (reply : Reply) :
    (Happening.answered operation request reply).untraced =
      some (.answered operation (operation.view request) reply) := by
  cases request with
  | write stream text => exact absurd trivial asks
  | _ => rfl

private theorem view_cases (operation : Operation) (request : Call) :
    operation.view request = request ∨ operation.view request = request.unbound := by
  cases operation with
  | relocate file sectionInfo buffer => exact Or.inr rfl
  | _ => exact Or.inl rfl

private theorem isRecord_view (operation : Operation) {request : Call}
    (asks : ¬request.IsRecord) : ¬(operation.view request).IsRecord := by
  rcases view_cases operation request with same | unbound
  · rw [same]
    exact asks
  · rw [unbound]
    cases request <;> exact asks

private theorem admits_view (operation : Operation) {contents : ObjectId → Content}
    {request : Call} {reply : Reply} (admitted : request.Admits contents reply) :
    (operation.view request).Admits contents reply := by
  rcases view_cases operation request with same | unbound
  · rw [same]
    exact admitted
  · rw [unbound]
    cases request <;> exact admitted

end Shown

private theorem toggles_edit {operation : Operation} (toggles : operation.toggles = true) :
    ∃ change : Edit Unit,
      operation.routine = (Routine.edit change >>= fun _ => pure .nothing) ∧
      ∀ {now plain}, Begun Operation.Gated now → Agree now.library plain →
        Course Operation.Gated now (now.after change) ∧ Agree (now.after change).library plain := by
  have set : ∀ value {now plain}, Begun Operation.Gated now → Agree now.library plain →
      Course Operation.Gated now (now.after (Logging.setDebug value)) ∧
        Agree (now.after (Logging.setDebug value)).library plain := by
    intro value now plain begun agree
    exact ⟨Course.of_relogging (.debugSet value) begun.sound, agree.setDebug begun.sound value⟩
  cases operation with
  | setDebug value => exact ⟨Logging.setDebug value, rfl, set value⟩
  | setCommand text =>
    refine ⟨Logging.setCommand text, rfl, ?_⟩
    intro now plain begun agree
    unfold Logging.setCommand
    split
    · exact ⟨Course.refl now, agree⟩
    · exact set _ begun agree
  | applyConfiguration configuration => exact ⟨Logging.apply configuration, rfl, set _⟩
  | applyEnvironment environment =>
    refine ⟨Logging.applyEnvironment environment, rfl, ?_⟩
    intro now plain begun agree
    unfold Logging.applyEnvironment
    split
    · exact ⟨Course.refl now, agree⟩
    · exact set _ begun agree
  | _ => cases toggles

private theorem proceed_edit (operation : Operation) (pending : List Frame) (change : Edit Unit)
    (world : World) :
    ∃ outcome, Moment.proceed operation pending
        (Routine.edit change >>= fun _ => pure .nothing) world =
      { (world.after change).note (.finished operation outcome) with pending := pending } := by
  change ∃ outcome, Moment.proceed operation pending
    (Routine.bind (.done (change.apply world.library).1) fun _ => .done (.ok .nothing))
      (world.after change) = _
  cases (change.apply world.library).1 with
  | ok value => exact ⟨.ok .nothing, rfl⟩
  | error raised => exact ⟨.error raised, rfl⟩

/-! ### Two runs side by side -/

/-- An operation ends in both runs alike, and the traced one has kept to its
course since `start`. -/
def EndsAlike (start : World) (outcome other : Except Raised Result) (finish : World)
    (plain : Library) : Prop :=
  Alike outcome other finish plain ∧ Course Operation.Gated start finish

/-- The calls that wait for replies in both runs, pair by pair. Whatever the
reply, each pair of operations goes on in step. -/
inductive Tied : List Frame → List Frame → World → Prop
  | nil (world : World) : Tied [] [] world
  | cons {operation : Operation} {request : Call} {next other : Reply → Routine Result}
      {rest others : List Frame} {start world : World} (outer : Tied rest others start)
      (asks : ¬request.IsRecord) (kept : operation.toggles = false)
      (continues : ∀ reply later replied, request.Admits later.library.contents reply →
        Course Operation.Gated world later → Agree later.library replied →
        Coupled operation.view (EndsAlike start) (next reply) later (other reply) replied) :
      Tied ({ operation := operation, request := request, next := next } :: rest)
        ({ operation := operation, request := operation.view request, next := other } :: others)
        world

theorem Tied.later {frames others : List Frame} {world later : World}
    (tied : Tied frames others world) (further : Course Operation.Gated world later) :
    Tied frames others later := by
  cases tied with
  | nil => exact .nil later
  | cons outer asks kept continues =>
    refine .cons outer asks kept ?_
    intro reply finish replied admitted reached agree
    exact continues reply finish replied admitted (further.trans reached) agree

structure Level (moment plain : Moment) : Prop where
  tied : Tied moment.pending plain.pending moment.toWorld
  agree : Agree moment.library plain.library
  shown : plain.history = moment.untraced

/-- How far the plain run is when the traced one is at some moment. While a
record is written, the plain operation is carried on without it. -/
inductive Beside : Moment → Moment → Prop
  | level {moment plain : Moment} (level : Level moment plain) : Beside moment plain
  | recording {moment plain : Moment} {frame : Frame} {rest others : List Frame} {start : World}
      {right : Routine Result} {library : Library} {stream : Stream} {text : String}
      (waiting : moment.pending = frame :: rest) (writes : frame.request = .write stream text)
      (kept : frame.operation.toggles = false)
      (outer : Tied rest others start)
      (ahead : plain = Moment.proceed frame.operation others right
        { library := library, history := moment.untraced })
      (continues : ∀ value later, Course Operation.Gated moment.toWorld later →
        later.library = moment.library →
        Coupled frame.operation.view (EndsAlike start) (frame.next (.returned value)) later
          right library) :
      Beside moment plain

namespace Beside

/-- Two routines in step bring both runs to where a client has control again. -/
theorem proceed {operation : Operation} {pending others : List Frame} {start now : World}
    {left right : Routine Result} {plain : Library} (kept : operation.toggles = false)
    (outer : Tied pending others start)
    (coupled : Coupled operation.view (EndsAlike start) left now right plain) :
    Beside (Moment.proceed operation pending left now)
      (Moment.proceed operation others right { library := plain, history := now.untraced }) := by
  induction coupled with
  | @done outcome other now plain ended =>
    obtain ⟨⟨same, agree⟩, reached⟩ := ended
    subst same
    have noted : Course Operation.Gated now (now.note (.finished operation outcome)) :=
      Course.noted _ _ rfl
    refine .level ⟨outer.later (reached.trans noted), agree, ?_⟩
    change now.untraced ++ [_] = (now.note _).untraced
    rw [World.untraced_note, untraced_finished kept]
    rfl
  | readLeft _ ih => exact ih
  | readRight _ ih => exact ih
  | writeLeft _ ih => exact ih
  | writeRight _ ih => exact ih
  | @mark milestone left now right plain _ ih =>
    rw [World.untraced_note] at ih
    exact ih
  | @record stream text next now right plain rest _ =>
    -- Only the traced run stops here. The plain one is carried on to its next stop at once.
    have noted : Course Operation.Gated now (now.note (.called operation (.write stream text))) :=
      Course.noted _ _ rfl
    have silent : (Happening.called operation (.write stream text)).untraced = none := rfl
    rw [← now.untraced_silent silent]
    refine .recording rfl rfl kept outer rfl ?_
    intro value later reached unchanged
    exact rest value later (noted.trans reached) unchanged
  | @call request other left now right plain agree asks viewed rest _ =>
    subst viewed
    have noted : Course Operation.Gated now (now.note (.called operation request)) :=
      Course.noted _ _ rfl
    refine .level ⟨.cons outer asks kept ?_, agree, ?_⟩
    · intro reply later replied admitted reached agreed
      exact rest reply later replied admitted (noted.trans reached) agreed
    · change now.untraced ++ [_] = (now.note _).untraced
      rw [World.untraced_note, untraced_called asks]
      rfl

theorem level_of_not_recording {moment plain : Moment} (beside : Beside moment plain)
    (quiet : ¬moment.Recording) : Level moment plain := by
  cases beside with
  | level level => exact level
  | recording waiting writes kept outer ahead continues =>
    refine absurd ⟨_, _, waiting, ?_⟩ quiet
    rw [writes]
    exact trivial

end Beside

namespace Level

variable {moment plain : Moment}

private theorem note (level : Level moment plain) {happening other : Happening}
    (shown : happening.untraced = some other) :
    plain.toWorld.note other =
      { library := plain.library, history := (moment.toWorld.note happening).untraced } := by
  rw [World.untraced_note, shown, ← level.shown]
  rfl

theorem start {operation : Operation} (level : Level moment plain)
    (ordinary : operation.Ordinary moment.library)
    (admissible : operation.Admissible moment.library) (kept : operation.toggles = false)
    (begun : Begun Operation.Gated moment.toWorld) :
    Beside (moment.start operation) (plain.start operation) := by
  have noted : Course Operation.Gated moment.toWorld
      (moment.toWorld.note (.started operation)) := Course.noted _ _ rfl
  have begunNoted := begun.trans noted.path
  have coupled : Coupled operation.view Alike operation.routine
      (moment.toWorld.note (.started operation)) operation.routine plain.library :=
    Operation.coupled ordinary admissible kept begunNoted level.agree
  have honours : Routine.Honours (course Operation.Gated) operation.routine
      (moment.toWorld.note (.started operation)) :=
    Operation.honours_course ordinary.gated admissible begunNoted
  have beside := Beside.proceed kept (level.tied.later noted) (coupled.along honours)
  rw [← level.note (untraced_started kept)] at beside
  exact beside

theorem resume {frame : Frame} {rest : List Frame} {reply : Reply} (level : Level moment plain)
    (waiting : moment.pending = frame :: rest)
    (admitted : frame.request.Admits moment.library.contents reply) :
    ∃ other others, plain.pending = other :: others ∧
      other.request.Admits plain.library.contents reply ∧
      Beside (moment.resume frame rest reply) (plain.resume other others reply) := by
  have tied := level.tied
  rw [waiting] at tied
  generalize beneath : plain.pending = plainPending at tied
  cases tied with
  | @cons operation request next other _ others _ _ outer asks kept continues =>
    have admittedBeside : (operation.view request).Admits plain.library.contents reply := by
      rw [level.agree.contents]
      exact admits_view operation admitted
    refine ⟨_, others, rfl, admittedBeside, ?_⟩
    have noted : Course Operation.Gated moment.toWorld
        (moment.toWorld.note (.answered operation request reply)) := Course.noted _ _ rfl
    have beside := Beside.proceed kept outer
      (continues reply (moment.note _) plain.library admitted noted level.agree)
    rw [← level.note (untraced_answered asks reply)] at beside
    exact beside

theorem quiet (level : Level moment plain) : ¬moment.Recording ∧ ¬plain.Recording := by
  have tied := level.tied
  constructor
  · intro ⟨frame, rest, waiting, writes⟩
    rw [waiting] at tied
    generalize plain.pending = others at tied
    cases tied with
    | cons outer asks kept continues => exact asks writes
  · intro ⟨frame, rest, waiting, writes⟩
    rw [waiting] at tied
    generalize moment.pending = frames at tied
    cases tied with
    | cons outer asks kept continues => exact isRecord_view _ asks writes

theorem toggle {operation : Operation} (level : Level moment plain)
    (toggles : operation.toggles = true) (begun : Begun Operation.Gated moment.toWorld) :
    Level (moment.start operation) plain := by
  have noted : Course Operation.Gated moment.toWorld
      (moment.toWorld.note (.started operation)) := Course.noted _ _ rfl
  obtain ⟨change, routineEq, changed⟩ := toggles_edit toggles
  obtain ⟨reached, agree⟩ := changed (begun.trans noted.path) level.agree
  obtain ⟨outcome, finished⟩ := proceed_edit operation moment.pending change
    (moment.toWorld.note (.started operation))
  rw [← routineEq] at finished
  change Level (Moment.proceed operation moment.pending operation.routine _) plain
  rw [finished]
  have closed : Course Operation.Gated
      ((moment.toWorld.note (.started operation)).after change)
      (((moment.toWorld.note (.started operation)).after change).note
        (.finished operation outcome)) := Course.noted _ _ rfl
  refine ⟨level.tied.later ((noted.trans reached).trans closed), agree, ?_⟩
  have shown : (((moment.toWorld.note (.started operation)).after change).note
      (.finished operation outcome)).untraced = moment.untraced := by
    rw [World.untraced_silent _ (by simp [Happening.untraced, toggles])]
    exact moment.untraced_silent (by simp [Happening.untraced, toggles])
  exact level.shown.trans shown.symm

end Level

theorem Beside.written {moment plain : Moment} {frame : Frame} {rest : List Frame} {reply : Reply}
    (beside : Beside moment plain) (recording : moment.Recording)
    (waiting : moment.pending = frame :: rest)
    (admitted : frame.request.Admits moment.library.contents reply) :
    Beside (moment.resume frame rest reply) plain := by
  cases beside with
  | level level => exact absurd recording level.quiet.1
  | recording waitingToo writes kept outer ahead continues =>
    cases waiting.symm.trans waitingToo
    rw [writes] at admitted
    obtain ⟨value, rfl⟩ := admitted
    have noted : Course Operation.Gated moment.toWorld
        (moment.toWorld.note (.answered frame.operation frame.request (.returned value))) :=
      Course.noted _ _ rfl
    have silent :
        (Happening.answered frame.operation frame.request (.returned value)).untraced = none := by
      rw [writes]
      rfl
    have resumed := Beside.proceed kept outer (continues value _ noted rfl)
    rw [moment.untraced_silent silent, ← ahead] at resumed
    exact resumed

/-! ### The statement about runs -/

private theorem Reachable.beside {moment : Moment} (reachable : Reachable .ordinary moment) :
    ∃ plain, Reachable .untoggled plain ∧ Beside moment plain := by
  induction reachable with
  | initial => exact ⟨.initial, .initial, .level ⟨.nil _, Agree.initial, rfl⟩⟩
  | @start moment operation before admissible permitted ih =>
    obtain ⟨plain, reached, beside⟩ := ih
    obtain ⟨ordinary, quiet⟩ := permitted
    have begun : Begun Operation.Gated moment.toWorld :=
      before.begun fun _ _ permitted => permitted.1.gated
    have level := beside.level_of_not_recording quiet
    -- A toggle is a step of the traced run alone; every other operation is started in both.
    cases toggles : operation.toggles with
    | true => exact ⟨plain, reached, .level (level.toggle toggles begun)⟩
    | false =>
      refine ⟨plain.start operation, ?_, level.start ordinary admissible toggles begun⟩
      refine .start operation reached (ordinary.admissible_beside admissible level.agree) ?_
      refine ⟨⟨ordinary.beside level.agree, level.quiet.2⟩, ?_⟩
      intro other same
      cases same
      exact toggles
  | @resume moment frame rest reply before waiting permitted ih =>
    obtain ⟨plain, reached, beside⟩ := ih
    by_cases recording : moment.Recording
    · exact ⟨plain, reached, beside.written recording waiting permitted⟩
    · have level := beside.level_of_not_recording recording
      obtain ⟨other, others, plainWaiting, admitted, resumed⟩ := level.resume waiting permitted
      refine ⟨_, .resume reply reached plainWaiting ⟨admitted, ?_⟩, resumed⟩
      intro operation same
      cases same

private theorem Beside.shown {moment plain : Moment} (beside : Beside moment plain) :
    moment.untraced <+: plain.history := by
  cases beside with
  | level level => exact ⟨[], (List.append_nil _).trans level.shown.symm⟩
  | recording waiting writes kept outer ahead continues =>
    rw [ahead]
    exact history_proceed _ _ _ { library := _, history := moment.untraced }

/-- Logging changes nothing that clients can see: for every run there is one in
which the debug setting is left off and all else happens in the same order, and
the library then holds the same apart from the logging. While a record is
written the run without logging may be further on. -/
theorem Reachable.transparent {moment : Moment} (reachable : Reachable .ordinary moment) :
    ∃ plain, Reachable .untoggled plain ∧ moment.untraced <+: plain.history ∧
      (¬moment.Recording →
        plain.history = moment.untraced ∧ Agree moment.library plain.library) := by
  obtain ⟨plain, reached, beside⟩ := reachable.beside
  refine ⟨plain, reached, beside.shown, fun quiet => ?_⟩
  have level := beside.level_of_not_recording quiet
  exact ⟨level.shown, level.agree⟩

/-- A run in which a record is written after the debug setting was turned on. -/
def Moment.recorded : Moment :=
  let asked := Moment.logging.start (.hasPartialSymbols { index := 0 })
  match asked.pending with
  | [] => asked
  | frame :: rest => asked.resume frame rest (.returned .null)

theorem transparent_recorded :
    Reachable .ordinary Moment.recorded ∧
    Moment.recorded.untraced.length < Moment.recorded.history.length ∧
    ∃ plain, Reachable .untoggled plain ∧ plain.history = Moment.recorded.untraced ∧
      Agree Moment.recorded.library plain.library := by
  have quiet : ∀ {moment : Moment}, moment.pending = [] → ¬moment.Recording := by
    intro moment idle ⟨frame, rest, waiting, _⟩
    rw [idle] at waiting
    cases waiting
  have created : Reachable .ordinary _ :=
    .start (.createSpace none) .initial trivial ⟨trivial, quiet rfl⟩
  have made : Reachable .ordinary _ :=
    .start (.newReaderTable .vacant) created (fun _ found => by cases found)
      ⟨trivial, quiet rfl⟩
  have added : Reachable .ordinary _ :=
    .start (.addObjectFile { index := 0 } "a.out" none) made trivial ⟨trivial, quiet rfl⟩
  have set : Reachable .ordinary _ :=
    .start (.setTable { index := 0 } (.reader { index := 0 })) added Nat.zero_lt_one
      ⟨⟨⟨{ index := 0 }, by decide⟩, { index := 0 }, rfl⟩, quiet rfl⟩
  have logging : Reachable .ordinary Moment.logging :=
    .start (.setDebug true) set trivial ⟨trivial, quiet rfl⟩
  have asked : Reachable .ordinary _ :=
    .start (.hasPartialSymbols { index := 0 }) logging trivial ⟨trivial, quiet rfl⟩
  have recorded : Reachable .ordinary Moment.recorded :=
    .resume (.returned .null) asked rfl ⟨.null, rfl⟩
  obtain ⟨plain, reached, _, beside⟩ := recorded.transparent
  exact ⟨recorded, by decide, plain, reached, beside (quiet rfl)⟩

end ReaderTrace
