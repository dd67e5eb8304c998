import Mathlib.Data.List.TakeWhile
import ReaderTrace.Proofs.Removal
import ReaderTrace.Proofs.Scope

/-!
What the posting of an event delivers, and to whom.

Listeners are subscribed one by one in the course of a run, also by listeners that
are being told of something. A posting tells those that were subscribed when it
began, in the order of their subscriptions, and stops at the first that throws.
-/

namespace ReaderTrace

open Routine

/-! ### Who has subscribed -/

namespace Happening

/-- The event was created. -/
def creates (event : EventId) : Happening → Bool
  | .finished .createEvent (.ok (.event made)) => made = event
  | _ => false

/-- The function that was subscribed to the event, if one was. -/
def subscribed? (event : EventId) : Happening → Option FunctionId
  | .finished (.subscribe other function) (.ok _) => if other = event then some function else none
  | _ => none

@[simp] theorem subscribed?_started (event : EventId) (operation : Operation) :
    (Happening.started operation).subscribed? event = none :=
  rfl

@[simp] theorem creates_createEvent (event made : EventId) :
    (Happening.finished .createEvent (.ok (.event made))).creates event = decide (made = event) :=
  rfl

@[simp] theorem subscribed?_subscribe (event other : EventId) (function : FunctionId)
    (result : Result) :
    (Happening.finished (.subscribe other function) (.ok result)).subscribed? event =
      if other = event then some function else none :=
  rfl

/-- The event was not created, and no function was subscribed to it. -/
structure Quiet (event : EventId) (happening : Happening) : Prop where
  creates : happening.creates event = false
  subscribed : happening.subscribed? event = none

theorem quiet_finished {operation : Operation} (other : ¬operation.Concerns .events)
    (event : EventId) (outcome : Except Raised Result) :
    (Happening.finished operation outcome).Quiet event := by
  cases operation with
  | createEvent => exact absurd trivial other
  | subscribe event function => exact absurd trivial other
  | _ => exact ⟨rfl, rfl⟩

end Happening

namespace World

/-- The event exists. One does from the beginning. -/
def Knows (world : World) (event : EventId) : Prop :=
  event = destroyedEvent ∨ ∃ happening ∈ world.history, happening.creates event = true

/-- What has happened since the event was created. -/
def since (world : World) (event : EventId) : List Happening :=
  if event = destroyedEvent then world.history
  else world.history.dropWhile fun happening => !happening.creates event

/-- The functions that were subscribed to the event, in order, a function as often as it
was subscribed. -/
def subscribers (world : World) (event : EventId) : List FunctionId :=
  (world.since event).filterMap (Happening.subscribed? event)

variable {world after : World} {event : EventId} {added : List Happening}

theorem since_of_knows (history : after.history = world.history ++ added)
    (knows : world.Knows event) : after.since event = world.since event ++ added := by
  unfold since
  rw [history]
  split
  · rfl
  · next other =>
    obtain ⟨happening, member, creates⟩ := knows.resolve_left other
    rw [List.dropWhile_append, if_neg]
    rw [List.isEmpty_iff, List.dropWhile_eq_nil_iff]
    intro never
    simpa [creates] using never happening member

theorem since_of_not_knows (history : after.history = world.history ++ added)
    (unknown : ¬world.Knows event) :
    after.since event = added.dropWhile fun happening => !happening.creates event := by
  have before : world.history.dropWhile (fun happening => !happening.creates event) = [] := by
    rw [List.dropWhile_eq_nil_iff]
    intro happening member
    rw [Bool.not_eq_true', ← Bool.not_eq_true]
    exact fun creates => unknown (Or.inr ⟨happening, member, creates⟩)
  unfold since
  rw [if_neg fun same => unknown (Or.inl same), history, List.dropWhile_append, before]
  rfl

theorem subscribers_of_not_knows (unknown : ¬world.Knows event) : world.subscribers event = [] := by
  unfold subscribers
  rw [since_of_not_knows (List.append_nil _).symm unknown]
  rfl

theorem Knows.later (knows : world.Knows event) (grows : world.history <+: after.history) :
    after.Knows event :=
  knows.imp_right fun ⟨happening, member, creates⟩ => ⟨happening, grows.subset member, creates⟩

/-- Subscriptions to an event that exists are never taken back. -/
theorem subscribers_prefix (knows : world.Knows event) (grows : world.history <+: after.history) :
    world.subscribers event <+: after.subscribers event := by
  obtain ⟨added, history⟩ := grows
  unfold subscribers
  rw [since_of_knows history.symm knows]
  exact (List.prefix_append _ _).filterMap _

theorem knows_iff (history : after.history = world.history ++ added) :
    after.Knows event ↔
      world.Knows event ∨ ∃ happening ∈ added, happening.creates event = true := by
  unfold Knows
  rw [history, or_assoc]
  simp only [List.mem_append, or_and_right, exists_or]

theorem knows_of_quiet (history : after.history = world.history ++ added)
    (quiet : ∀ happening ∈ added, happening.Quiet event) :
    after.Knows event ↔ world.Knows event := by
  rw [knows_iff history, or_iff_left]
  rintro ⟨happening, member, creates⟩
  rw [(quiet happening member).creates] at creates
  cases creates

/-- Where nobody subscribes the subscribers stay the same, even if the event is created. -/
theorem subscribers_of_none (history : after.history = world.history ++ added)
    (none : ∀ happening ∈ added, happening.subscribed? event = none) :
    after.subscribers event = world.subscribers event := by
  by_cases knows : world.Knows event
  · have nobody : added.filterMap (Happening.subscribed? event) = [] :=
      List.filterMap_eq_nil_iff.mpr none
    unfold subscribers
    rw [since_of_knows history knows, List.filterMap_append, nobody, List.append_nil]
  · rw [subscribers_of_not_knows knows]
    unfold subscribers
    rw [since_of_not_knows history knows, List.filterMap_eq_nil_iff]
    exact fun happening member => none happening ((List.dropWhile_suffix _).subset member)

end World

/-! ### The listeners are the subscribers -/

/-- What the library keeps for each event is what the history says. -/
structure Enrolled (world : World) : Prop where
  knows : ∀ event, event.index < world.library.events.length ↔ world.Knows event
  listeners : ∀ event, world.library.listeners event =
    (if event = destroyedEvent then [.release] else []) ++
      (world.subscribers event).map Listener.client

namespace Enrolled

variable {world after : World} {added : List Happening}

theorem initial : Enrolled .initial where
  knows := by
    intro event
    constructor
    · intro known
      have first : event.index = 0 := Nat.lt_one_iff.mp known
      exact Or.inl (by cases event; cases first; rfl)
    · rintro (rfl | ⟨happening, member, _⟩)
      · exact Nat.zero_lt_one
      · cases member
  listeners := by
    intro event
    have nobody : World.initial.subscribers event = [] := by
      unfold World.subscribers World.since
      split <;> rfl
    rw [nobody]
    rcases event with ⟨_ | index⟩ <;> rfl

theorem quiet (enrolled : Enrolled world) (events : after.library.events = world.library.events)
    (history : after.history = world.history ++ added)
    (quiet : ∀ event, ∀ happening ∈ added, happening.Quiet event) : Enrolled after where
  knows event := by
    rw [events, World.knows_of_quiet history (quiet event)]
    exact enrolled.knows event
  listeners event := by
    rw [World.subscribers_of_none history fun happening member =>
      (quiet event happening member).subscribed, Library.listeners, events]
    exact enrolled.listeners event

theorem noted (enrolled : Enrolled world) {happening : Happening}
    (quiet : ∀ event, happening.Quiet event) : Enrolled (world.note happening) :=
  enrolled.quiet rfl rfl fun event other member => by
    rw [List.mem_singleton.mp member]
    exact quiet event

theorem created (enrolled : Enrolled world)
    (library : after.library = (Event.create.apply world.library).2)
    (history : after.history = world.history ++ [.started .createEvent,
      .finished .createEvent (.ok (.event { index := world.library.events.length }))]) :
    Enrolled after := by
  constructor
  · intro event
    have length : after.library.events.length = world.library.events.length + 1 := by
      rw [library]
      exact List.length_append
    have creates : (∃ happening ∈ [Happening.started .createEvent,
        .finished .createEvent (.ok (.event { index := world.library.events.length }))],
        happening.creates event = true) ↔ event.index = world.library.events.length := by
      cases event
      simp only [List.mem_cons, List.not_mem_nil, or_false, exists_eq_or_imp, exists_eq_left,
        Happening.creates, Bool.false_eq_true, false_or, decide_eq_true_eq, EventId.mk.injEq]
      exact eq_comm
    rw [World.knows_iff history, ← enrolled.knows event, creates, length]
    exact Nat.lt_succ_iff_lt_or_eq
  · intro event
    have nobody : ∀ happening ∈ [Happening.started .createEvent,
        .finished .createEvent (.ok (.event { index := world.library.events.length }))],
        happening.subscribed? event = none := by
      intro happening member
      simp only [List.mem_cons, List.not_mem_nil, or_false] at member
      rcases member with rfl | rfl <;> rfl
    rw [World.subscribers_of_none history nobody, library, Event.listeners_create]
    exact enrolled.listeners event

theorem subscribed (enrolled : Enrolled world) {event : EventId} {function : FunctionId}
    (library : after.library = ((Event.subscribe event (.client function)).apply world.library).2)
    (history : after.history = world.history ++ [.started (.subscribe event function),
      .finished (.subscribe event function) (.ok .nothing)]) : Enrolled after := by
  have length : after.library.events.length = world.library.events.length := by
    rw [library]
    exact List.length_modify ..
  have knowsEq : ∀ other, after.Knows other ↔ world.Knows other := by
    intro other
    rw [World.knows_iff history, or_iff_left]
    rintro ⟨happening, member, creates⟩
    simp only [List.mem_cons, List.not_mem_nil, or_false] at member
    rcases member with rfl | rfl <;> cases creates
  constructor
  · intro other
    rw [knowsEq, length]
    exact enrolled.knows other
  · intro other
    by_cases knows : world.Knows other
    · have known := (enrolled.knows other).mpr knows
      have added : after.subscribers other =
          world.subscribers other ++ if event = other then [function] else [] := by
        unfold World.subscribers
        rw [World.since_of_knows history knows, List.filterMap_append]
        by_cases same : event = other <;> simp [same, List.filterMap_cons]
      have sameIndex : event.index = other.index ↔ event = other := by
        cases event
        cases other
        simp
      rw [library, Event.listeners_subscribe _ known, enrolled.listeners other, added]
      simp only [sameIndex]
      by_cases same : event = other <;> simp [same]
    · have beyond := Nat.le_of_not_lt (mt (enrolled.knows other).mp knows)
      have before := enrolled.listeners other
      rw [World.subscribers_of_not_knows knows] at before
      rw [World.subscribers_of_not_knows (mt (knowsEq other).mp knows), ← before, library,
        Event.listeners_subscribe_of_beyond _ beyond, Library.listeners,
        List.getElem?_eq_none beyond]
      rfl

end Enrolled

/-! ### In a run -/

/-- An operation that is not about events leaves no trace of any. -/
theorem Moment.quiet_proceed {operation : Operation} (other : ¬operation.Concerns .events)
    (routine : Routine Result) (world : World) (pending : List Frame) :
    (∃ added, (proceed operation pending routine world).history = world.history ++ added ∧
      ∀ event, ∀ happening ∈ added, happening.Quiet event) ∧
    ∀ frame ∈ (proceed operation pending routine world).pending,
      frame ∈ pending ∨ frame.operation = operation := by
  induction routine generalizing world with
  | done outcome =>
    refine ⟨⟨_, rfl, fun event happening member => ?_⟩, fun frame member => Or.inl member⟩
    rw [List.mem_singleton.mp member]
    exact Happening.quiet_finished other event outcome
  | read rest ih => exact ih world.library world
  | write library rest ih => exact ih { world with library := library }
  | call request rest _ =>
    refine ⟨⟨_, rfl, fun event happening member => ?_⟩, fun frame member => ?_⟩
    · rw [List.mem_singleton.mp member]
      exact ⟨rfl, rfl⟩
    · rcases List.mem_cons.mp member with rfl | before
      · exact Or.inr rfl
      · exact Or.inl before
  | mark milestone rest ih =>
    obtain ⟨⟨added, history, quiet⟩, frames⟩ := ih (world.note (.reached milestone))
    refine ⟨⟨.reached milestone :: added, ?_, ?_⟩, frames⟩
    · exact history.trans (List.append_assoc ..)
    · intro event happening member
      rcases List.mem_cons.mp member with rfl | further
      · exact ⟨rfl, rfl⟩
      · exact quiet event happening further

/-- The subscriptions are in order, and no operation that waits will change them. -/
structure Attending (moment : Moment) : Prop where
  enrolled : Enrolled moment.toWorld
  quiet : ∀ frame ∈ moment.pending, ¬frame.operation.Concerns .events
  steady : ∀ frame ∈ moment.pending, ∀ reply, (frame.next reply).Steady Library.events

namespace Attending

variable {moment : Moment} {operation : Operation}

private theorem proceed {routine : Routine Result} {world : World} {pending : List Frame}
    (enrolled : Enrolled world) (other : ¬operation.Concerns .events)
    (keeps : routine.Steady Library.events)
    (quiet : ∀ frame ∈ pending, ¬frame.operation.Concerns .events)
    (steady : ∀ frame ∈ pending, ∀ reply, (frame.next reply).Steady Library.events) :
    Attending (Moment.proceed operation pending routine world) := by
  obtain ⟨⟨added, history, still⟩, frames⟩ :=
    Moment.quiet_proceed other routine world pending
  obtain ⟨events, own, pendingEq, ownSteady⟩ :=
    (keeps world.library).proceeded world operation pending
  constructor
  · exact enrolled.quiet events history still
  · intro frame member
    rcases frames frame member with before | same
    · exact quiet frame before
    · rw [same]
      exact other
  · intro frame member
    rw [pendingEq] at member
    rcases List.mem_append.mp member with new | before
    · exact ownSteady frame new
    · exact steady frame before

theorem start (attending : Attending moment) (operation : Operation) :
    Attending (moment.start operation) := by
  by_cases about : operation.Concerns .events
  · cases operation with
    | createEvent =>
      have enrolled : Enrolled (moment.start .createEvent).toWorld :=
        attending.enrolled.created rfl (List.append_assoc ..)
      exact ⟨enrolled, attending.quiet, attending.steady⟩
    | subscribe event function =>
      have enrolled : Enrolled (moment.start (.subscribe event function)).toWorld :=
        attending.enrolled.subscribed rfl (List.append_assoc ..)
      exact ⟨enrolled, attending.quiet, attending.steady⟩
    | _ => exact about.elim
  · have noted : Enrolled (moment.note (.started operation)) :=
      attending.enrolled.noted fun _ => ⟨rfl, rfl⟩
    exact proceed noted about (Operation.spares_events about) attending.quiet attending.steady

theorem resume (attending : Attending moment) {frame : Frame} {rest : List Frame}
    (waiting : moment.pending = frame :: rest) (reply : Reply) :
    Attending (moment.resume frame rest reply) := by
  obtain ⟨enrolled, quiet, steady⟩ := attending
  rw [waiting] at quiet steady
  have noted : Enrolled (moment.note (.answered frame.operation frame.request reply)) :=
    enrolled.noted fun _ => ⟨rfl, rfl⟩
  exact proceed noted (quiet frame (List.mem_cons_self ..))
    (steady frame (List.mem_cons_self ..) reply)
    (fun other member => quiet other (List.mem_cons_of_mem _ member))
    fun other member => steady other (List.mem_cons_of_mem _ member)

end Attending

theorem Reachable.attending {rules : Rules} {moment : Moment}
    (reachable : Reachable rules moment) : Attending moment := by
  induction reachable with
  | initial =>
    exact ⟨.initial, (List.forall_mem_nil _), (List.forall_mem_nil _)⟩
  | start operation _ _ _ ih => exact ih.start operation
  | resume reply _ waiting _ ih => exact ih.resume waiting reply

/-! ### One posting -/

/-- The functions were called one after another, each with the data, and all returned. -/
structure Heard (data : Value) (told : List FunctionId) (exchanges : List Exchange) : Prop where
  calls : exchanges.map (fun exchange => exchange.request) =
    told.map fun function => .function function none [data]
  returned : ∀ exchange ∈ exchanges, ∃ value, exchange.reply = .returned value

/-- The function is called that comes next on the list. -/
inductive Due (data : Value) (listeners : List FunctionId) (exchanges : List Exchange) :
    Call → Prop
  | next {told rest : List FunctionId} {function : FunctionId}
      (order : listeners = told ++ function :: rest) (heard : Heard data told exchanges) :
      Due data listeners exchanges (.function function none [data])

/-- What a posting ends with: all on the list were told, or one of them threw and those
after it were not called. -/
inductive Delivery {α : Type} (finished : α) (data : Value) (listeners : List FunctionId) :
    List Exchange → Except Raised α → Prop
  | complete {exchanges : List Exchange} (heard : Heard data listeners exchanges) :
      Delivery finished data listeners exchanges (.ok finished)
  | broken {earlier : List Exchange} {last : Exchange} {value : Value}
      (due : Due data listeners earlier last.request) (thrown : last.reply = .thrown value) :
      Delivery finished data listeners (earlier ++ [last]) (.error (.thrown value))

namespace Heard

variable {data : Value} {told : List FunctionId} {exchanges : List Exchange}

theorem nobody : Heard data [] [] where
  calls := rfl
  returned := List.forall_mem_nil _

theorem concat {function : FunctionId} {exchange : Exchange}
    (heard : Heard data told exchanges)
    (asked : exchange.request = .function function none [data])
    {value : Value} (returned : exchange.reply = .returned value) :
    Heard data (told ++ [function]) (exchanges ++ [exchange]) where
  calls := by
    rw [List.map_append, List.map_append, heard.calls]
    exact congrArg (_ ++ [·]) asked
  returned := by
    intro other member
    rcases List.mem_append.mp member with before | last
    · exact heard.returned other before
    · rw [List.mem_singleton.mp last]
      exact ⟨value, returned⟩

end Heard

end ReaderTrace
