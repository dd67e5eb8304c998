import ReaderTrace.Proofs.Inventory

/-!
What one operation asks of its clients, call by call.

While an operation waits for a reply, clients may start and finish others, whose
calls are not its own. A trail lists the calls that one operation has made since
it was started, each with the library as it was then and with the reply.
-/

namespace ReaderTrace

open Routine

/-- A call, with the library as it is when the call is made. -/
structure Asked where
  library : Library
  request : Call

/-- A call that was answered. -/
structure Round extends Asked where
  reply : Reply

/-- What a routine that hands the reply on ends with. -/
def Reply.outcome : Reply → Except Raised Value
  | .returned value => .ok value
  | .thrown value => .error (.thrown value)

/-- From `earlier` on the calls `waiting` have had no reply. -/
inductive Meanwhile (rules : Rules) (waiting : List Frame) (earlier : Moment) : Moment → Prop
  | refl : Meanwhile rules waiting earlier earlier
  | start {moment : Moment} (operation : Operation)
      (before : Meanwhile rules waiting earlier moment)
      (admissible : operation.Admissible moment.library)
      (permitted : rules moment (.started operation)) :
      Meanwhile rules waiting earlier (moment.start operation)
  | resume {moment : Moment} {frame : Frame} {rest : List Frame} (reply : Reply)
      (before : Meanwhile rules waiting earlier moment) (answers : moment.pending = frame :: rest)
      (kept : waiting <:+ rest)
      (permitted : rules moment (.answered frame.operation frame.request reply)) :
      Meanwhile rules waiting earlier (moment.resume frame rest reply)

/-- An operation was started while the calls `outer` waited, its own calls
`rounds` were answered, and this brought it to the moment. -/
inductive Trail (rules : Rules) (operation : Operation) (outer : List Frame) :
    List Round → Moment → Prop
  | start {moment : Moment} (before : Reachable rules moment) (around : moment.pending = outer)
      (admissible : operation.Admissible moment.library)
      (permitted : rules moment (.started operation)) :
      Trail rules operation outer [] (moment.start operation)
  | resume {rounds : List Round} {made later : Moment} {frame : Frame} (reply : Reply)
      (before : Trail rules operation outer rounds made)
      (asked : made.pending = frame :: outer)
      (meanwhile : Meanwhile rules (frame :: outer) made later)
      (answers : later.pending = frame :: outer)
      (permitted : rules later (.answered frame.operation frame.request reply)) :
      Trail rules operation outer
        (rounds ++ [{ library := made.library, request := frame.request, reply := reply }])
        (later.resume frame outer reply)

variable {rules : Rules} {operation : Operation} {outer : List Frame} {rounds : List Round}

theorem Meanwhile.reachable {waiting : List Frame} {earlier moment : Moment}
    (meanwhile : Meanwhile rules waiting earlier moment) (before : Reachable rules earlier) :
    Reachable rules moment := by
  induction meanwhile with
  | refl => exact before
  | start operation _ admissible permitted ih => exact .start operation ih admissible permitted
  | resume reply _ answers _ permitted ih => exact .resume reply ih answers permitted

theorem Meanwhile.history {earlier later : Moment}
    (meanwhile : Meanwhile rules outer earlier later) : earlier.history <+: later.history := by
  induction meanwhile with
  | refl => exact List.prefix_rfl
  | @start moment operation _ _ _ ih =>
    have noted : moment.history <+: (moment.toWorld.note (.started operation)).history :=
      List.prefix_append _ _
    exact (ih.trans noted).trans (history_proceed _ _ _ _)
  | @resume moment frame rest reply _ _ _ _ ih =>
    have noted : moment.history <+:
        (moment.toWorld.note (.answered frame.operation frame.request reply)).history :=
      List.prefix_append _ _
    exact (ih.trans noted).trans (history_proceed _ _ _ _)

theorem Trail.reachable {moment : Moment} (trail : Trail rules operation outer rounds moment) :
    Reachable rules moment := by
  induction trail with
  | start before _ admissible permitted => exact .start _ before admissible permitted
  | resume reply _ _ meanwhile answers permitted ih =>
    exact .resume reply (meanwhile.reachable ih) answers permitted

/-! ### What happens to the library meanwhile -/

theorem Moment.rewritten_proceed (operation : Operation) {routine : Routine Result} (world : World)
    {pending : List Frame} (writes : routine.Writes True world.library)
    (waiting : ∀ frame ∈ pending, ∀ reply, (frame.next reply).Rewrites True) :
    Rewritten True world.library (proceed operation pending routine world).library ∧
      ∀ frame ∈ (proceed operation pending routine world).pending, ∀ reply,
        (frame.next reply).Rewrites True := by
  induction routine generalizing world with
  | done outcome => exact ⟨.refl, waiting⟩
  | read next ih => exact ih world.library world writes
  | write library next ih =>
    have onward := ih { world with library := library } writes.2
    exact ⟨writes.1.trans onward.1, onward.2⟩
  | call request next ih =>
    refine ⟨.refl, fun frame member => ?_⟩
    rcases List.mem_cons.mp member with rfl | earlier
    · exact writes
    · exact waiting frame earlier
  | mark milestone next ih =>
    exact ih (world.note (.reached milestone)) writes

theorem Moment.rewritten_start {moment : Moment} (operation : Operation)
    (waiting : ∀ frame ∈ moment.pending, ∀ reply, (frame.next reply).Rewrites True) :
    Rewritten True moment.library (moment.start operation).library ∧
      ∀ frame ∈ (moment.start operation).pending, ∀ reply, (frame.next reply).Rewrites True :=
  rewritten_proceed operation (moment.note (.started operation))
    ((operation.rewrites moment.library).weaken fun _ => trivial) waiting

theorem Moment.rewritten_resume {moment : Moment} {frame : Frame} {rest : List Frame}
    (reply : Reply) (answers : moment.pending = frame :: rest)
    (waiting : ∀ frame ∈ moment.pending, ∀ reply, (frame.next reply).Rewrites True) :
    Rewritten True moment.library (moment.resume frame rest reply).library ∧
      ∀ other ∈ (moment.resume frame rest reply).pending, ∀ reply,
        (other.next reply).Rewrites True := by
  rw [answers] at waiting
  exact rewritten_proceed frame.operation
    (moment.note (.answered frame.operation frame.request reply))
    (waiting frame (List.mem_cons_self ..) reply moment.library)
    fun other member => waiting other (List.mem_cons_of_mem _ member)

theorem Reachable.rewrites {moment : Moment} (reachable : Reachable rules moment) :
    ∀ frame ∈ moment.pending, ∀ reply, (frame.next reply).Rewrites True := by
  induction reachable with
  | initial => intro frame member; cases member
  | start operation _ _ _ ih => exact (Moment.rewritten_start operation ih).2
  | @resume moment frame rest reply _ answers _ ih =>
    exact (Moment.rewritten_resume reply answers ih).2

/-- From a moment of a run on, the library is changed by single edits only. -/
theorem Meanwhile.rewritten {waiting : List Frame} {earlier later : Moment}
    (meanwhile : Meanwhile rules waiting earlier later) (before : Reachable rules earlier) :
    Rewritten True earlier.library later.library := by
  induction meanwhile with
  | refl => exact .refl
  | start operation reached _ _ ih =>
    exact ih.trans (Moment.rewritten_start operation (reached.reachable before).rewrites).1
  | resume reply reached answers _ _ ih =>
    exact ih.trans (Moment.rewritten_resume reply answers (reached.reachable before).rewrites).1

theorem Reachable.meanwhile {moment : Moment} (reachable : Reachable rules moment) :
    Meanwhile rules [] .initial moment := by
  induction reachable with
  | initial => exact .refl
  | start operation _ admissible permitted ih => exact .start operation ih admissible permitted
  | resume reply _ answers permitted ih =>
    exact .resume reply ih answers (List.nil_suffix) permitted

theorem Reachable.rewritten {moment : Moment} (reachable : Reachable rules moment) :
    Rewritten True .initial moment.library :=
  reachable.meanwhile.rewritten .initial

/-! ### Every call has a trail -/

/-- A call that waits after an operation has gone on is a new one of that
operation, or it waited before. -/
theorem Moment.waits_proceed {pending : List Frame} {routine : Routine Result} {world : World}
    {frame : Frame} (waits : frame :: outer <:+ (proceed operation pending routine world).pending) :
    frame :: outer <:+ pending ∨ frame.operation = operation ∧ outer = pending ∧
      (proceed operation pending routine world).pending = frame :: outer := by
  induction routine generalizing world with
  | done outcome => exact Or.inl waits
  | read next ih => exact ih world.library waits
  | write library next ih => exact ih waits
  | call request next _ =>
    rcases List.suffix_cons_iff.mp waits with whole | waited
    · cases whole
      exact Or.inr ⟨rfl, rfl, rfl⟩
    · exact Or.inl waited
  | mark milestone next ih => exact ih waits

/-- Each call that waits was made at some moment by an operation with a trail,
and has not been answered since. -/
theorem Reachable.trail {moment : Moment} (reachable : Reachable rules moment) {frame : Frame}
    {outer : List Frame} (waits : frame :: outer <:+ moment.pending) :
    ∃ rounds made, Trail rules frame.operation outer rounds made ∧
      made.pending = frame :: outer ∧ Meanwhile rules (frame :: outer) made moment := by
  induction reachable generalizing frame outer with
  | initial => cases List.eq_nil_of_suffix_nil waits
  | @start moment operation before admissible permitted ih =>
    rcases Moment.waits_proceed waits with waited | ⟨operationEq, outerEq, asked⟩
    · obtain ⟨rounds, made, trail, asked, meanwhile⟩ := ih waited
      exact ⟨rounds, made, trail, asked, meanwhile.start operation admissible permitted⟩
    · subst operationEq
      exact ⟨[], _, .start before outerEq.symm admissible permitted, asked, .refl⟩
  | @resume moment answered rest reply before answers permitted ih =>
    rcases Moment.waits_proceed waits with waited | ⟨operationEq, outerEq, asked⟩
    · have waitedBefore : frame :: outer <:+ moment.pending := by
        rw [answers]
        exact waited.trans (List.suffix_cons answered rest)
      obtain ⟨rounds, made, trail, asked, meanwhile⟩ := ih waitedBefore
      exact ⟨rounds, made, trail, asked, meanwhile.resume reply answers waited permitted⟩
    · subst outerEq
      have answeredBefore : answered :: outer <:+ moment.pending := ⟨[], answers.symm⟩
      obtain ⟨rounds, made, trail, askedBefore, meanwhile⟩ := ih answeredBefore
      rw [operationEq]
      exact ⟨_, _, .resume reply trail askedBefore meanwhile answers permitted, asked, .refl⟩

/-! ### Routines that account for their calls -/

namespace Routine

variable {α β : Type} (license : Operation → Prop) (allowed : List Round → Asked → Prop)

/-- From the world `now`, after `rounds`, a routine makes only calls that are
allowed after the rounds before them, and ends as `post` says. Whatever the
clients do, the world after a reply is one to which a run can have led. -/
def Accounts : Routine α → List Round → World → (Except Raised α → List Round → World → Prop) → Prop
  | .done outcome, rounds, now, post => post outcome rounds now
  | .read next, rounds, now, post => Accounts (next now.library) rounds now post
  | .write library next, rounds, now, post =>
      Accounts next rounds { now with library := library } post
  | .call request next, rounds, now, post =>
      allowed rounds { library := now.library, request := request } ∧
        ∀ reply later, Begun license later →
          Accounts (next reply)
            (rounds ++ [{ library := now.library, request := request, reply := reply }]) later post
  | .mark milestone next, rounds, now, post =>
      Accounts next rounds (now.note (.reached milestone)) post

variable {license allowed} {now : World}

theorem Accounts.mono {routine : Routine α}
    {post weaker : Except Raised α → List Round → World → Prop}
    (accounts : Accounts license allowed routine rounds now post)
    (implies : ∀ outcome rounds later, post outcome rounds later → weaker outcome rounds later) :
    Accounts license allowed routine rounds now weaker := by
  induction routine generalizing rounds now with
  | done outcome => exact implies outcome rounds now accounts
  | read next ih => exact ih now.library accounts
  | write library next ih => exact ih accounts
  | call request next ih =>
    exact ⟨accounts.1, fun reply later begun => ih reply (accounts.2 reply later begun)⟩
  | mark milestone next ih => exact ih accounts

theorem Accounts.bind {routine : Routine α} {next : α → Routine β}
    {middle : Except Raised α → List Round → World → Prop}
    {post : Except Raised β → List Round → World → Prop}
    (first : Accounts license allowed routine rounds now middle)
    (second : ∀ value rounds later, middle (.ok value) rounds later →
      Accounts license allowed (next value) rounds later post)
    (raised : ∀ error rounds later, middle (.error error) rounds later →
      post (.error error) rounds later) :
    Accounts license allowed (routine >>= next) rounds now post := by
  change Accounts license allowed (routine.bind next) rounds now post
  induction routine generalizing rounds now with
  | done outcome =>
    cases outcome with
    | ok value => exact second value rounds now first
    | error error => exact raised error rounds now first
  | read rest ih => exact ih now.library first
  | write library rest ih => exact ih first
  | call request rest ih =>
    exact ⟨first.1, fun reply later begun => ih reply (first.2 reply later begun)⟩
  | mark milestone rest ih => exact ih first

/-- Where only the calls matter, the outcome of the first part does not. -/
theorem Accounts.andThen {routine : Routine α} {next : α → Routine β}
    {middle : Except Raised α → List Round → World → Prop}
    (first : Accounts license allowed routine rounds now middle)
    (second : ∀ value rounds later, middle (.ok value) rounds later →
      Accounts license allowed (next value) rounds later fun _ _ _ => True) :
    Accounts license allowed (routine >>= next) rounds now fun _ _ _ => True :=
  first.bind second fun _ _ _ _ => trivial

theorem Accounts.map {routine : Routine α} {view : α → β}
    {post : Except Raised α → List Round → World → Prop}
    (accounts : Accounts license allowed routine rounds now post) :
    Accounts license allowed (routine >>= fun value => pure (view value)) rounds now
      fun _ _ _ => True :=
  accounts.andThen fun _ _ _ _ => trivial

theorem accounts_library {next : Library → Routine α}
    {post : Except Raised α → List Round → World → Prop}
    (continues : Accounts license allowed (next now.library) rounds now post) :
    Accounts license allowed (library >>= next) rounds now post :=
  continues

theorem accounts_edit {change : Edit α} {next : α → Routine β}
    {post : Except Raised β → List Round → World → Prop}
    (ok : ∀ value, (change.apply now.library).1 = .ok value →
      Accounts license allowed (next value) rounds (now.after change) post)
    (raised : ∀ error, (change.apply now.library).1 = .error error →
      post (.error error) rounds (now.after change)) :
    Accounts license allowed (edit change >>= next) rounds now post := by
  change Accounts license allowed
    (Routine.bind (.done (change.apply now.library).1) next) rounds (now.after change) post
  cases outcome : (change.apply now.library).1 with
  | ok value => exact ok value outcome
  | error error => exact raised error outcome

theorem accounts_ask {request : Call} {next : Value → Routine β}
    {post : Except Raised β → List Round → World → Prop}
    (asks : allowed rounds { library := now.library, request := request })
    (returned : ∀ value later, Begun license later →
      Accounts license allowed (next value)
        (rounds ++ [{ library := now.library, request := request, reply := .returned value }])
        later post)
    (raised : ∀ error rounds later, post (.error error) rounds later) :
    Accounts license allowed (ask request >>= next) rounds now post := by
  refine ⟨asks, fun reply later begun => ?_⟩
  cases reply with
  | returned value => exact returned value later begun
  | thrown value => exact raised _ _ later

theorem accounts_writeRecord {record : String} {next : Unit → Routine β}
    {post : Except Raised β → List Round → World → Prop}
    (asks : allowed rounds { library := now.library, request := .write now.library.stream record })
    (returned : ∀ round later, round.toAsked =
        { library := now.library, request := .write now.library.stream record } →
      Begun license later → Accounts license allowed (next ()) (rounds ++ [round]) later post)
    (raised : ∀ error rounds later, post (.error error) rounds later) :
    Accounts license allowed (discard (writeRecord record) >>= next) rounds now post := by
  refine ⟨asks, fun reply later begun => ?_⟩
  cases reply with
  | returned value => exact returned _ later rfl begun
  | thrown value => exact raised _ _ later

theorem accounts_forM {items : List β} {body : β → Routine Unit} {kept : List Round → Prop}
    (each : ∀ item ∈ items, ∀ rounds now, kept rounds →
      Accounts license allowed (body item) rounds now fun _ after _ => kept after)
    (before : kept rounds) :
    Accounts license allowed (items.forM body) rounds now fun _ after _ => kept after := by
  induction items generalizing rounds now with
  | nil => exact before
  | cons item rest ih =>
    refine Accounts.bind (each item (List.mem_cons_self ..) rounds now before) ?_ ?_
    · intro _ after later keptAfter
      exact ih (fun other member => each other (List.mem_cons_of_mem _ member)) keptAfter
    · exact fun _ _ _ keptAfter => keptAfter

end Routine

/-- The call that an operation waits for is allowed, and the operation will
account for the others. -/
private def Owing (license : Operation → Prop) (allowed : List Round → Asked → Prop)
    (outer : List Frame) (rounds : List Round) (made : Moment) : Prop :=
  ∀ frame, made.pending = frame :: outer →
    allowed rounds { library := made.library, request := frame.request } ∧
      ∀ reply later, Begun license later →
        Accounts license allowed (frame.next reply)
          (rounds ++ [{ library := made.library, request := frame.request, reply := reply }]) later
          fun _ _ _ => True

variable {license : Operation → Prop} {allowed : List Round → Asked → Prop}

private theorem owing_proceed (routine : Routine Result) (now : World)
    (accounts : Accounts license allowed routine rounds now fun _ _ _ => True) :
    Owing license allowed outer rounds (Moment.proceed operation outer routine now) := by
  induction routine generalizing now with
  | done outcome =>
    intro frame asked
    exact absurd asked.symm (List.cons_ne_self frame outer)
  | read next ih => exact ih now.library now accounts
  | write library next ih => exact ih _ accounts
  | call request next _ =>
    intro frame asked
    cases asked
    exact accounts
  | mark milestone next ih => exact ih _ accounts

/-- When an operation accounts for its calls, each call that it makes in a run
is allowed after the rounds of its trail. -/
theorem Trail.accounts
    (permits : ∀ moment operation, rules moment (.started operation) → license operation)
    (contract : ∀ world, license operation → operation.Admissible world.library →
      Begun license world →
      Accounts license allowed operation.routine [] world fun _ _ _ => True)
    {made : Moment} (trail : Trail rules operation outer rounds made) {frame : Frame}
    (asked : made.pending = frame :: outer) :
    allowed rounds { library := made.library, request := frame.request } := by
  have owing : Owing license allowed outer rounds made := by
    clear asked
    induction trail with
    | start before around admissible permitted =>
      subst around
      have begun := (before.begun permits).tail (.aside (.noted (.started operation) rfl))
      exact owing_proceed _ _ (contract _ (permits _ _ permitted) admissible begun)
    | @resume rounds made later frame reply before asked meanwhile answers permitted ih =>
      have begun : Begun license (later.note (.answered frame.operation frame.request reply)) :=
        ((meanwhile.reachable before.reachable).begun permits).tail (.aside (.noted _ rfl))
      exact owing_proceed _ _ ((ih frame asked).2 reply _ begun)
  exact (owing frame asked).1

end ReaderTrace
