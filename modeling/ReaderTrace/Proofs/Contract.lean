import ReaderTrace.Moment

/-!
Contracts of operations that clients interrupt.

A guarantee relates the world before an operation to any later world of its
run in which a client has control, and to the world in which it has finished.
While a routine waits for a reply, the operations that the client runs keep
the guarantee too, and that is all it may rely on when it goes on. Since calls
end in the order opposite to that in which they began, the contracts of the
single operations add up to a statement about whole runs.
-/

namespace ReaderTrace

/-- A relation between an earlier and a later world of a run. -/
structure Guarantee where
  holds : World → World → Prop
  refl : ∀ world, holds world world
  trans : ∀ {first second third}, holds first second → holds second third → holds first third
  noted : ∀ world happening, Happening.milestone? happening = none →
    holds world (world.note happening)

namespace Routine

variable {α β : Type} (guarantee : Guarantee)

/-- From the world `now`, a routine that began at `start` meets the guarantee
at each call and ends as `post` says, whatever the clients do that meets the
guarantee. -/
def Follows : Routine α → World → World → (Except Raised α → World → Prop) → Prop
  | .done outcome, _, now, post => post outcome now
  | .read next, start, now, post => Follows (next now.library) start now post
  | .write library next, start, now, post =>
      Follows next start { now with library := library } post
  | .call _ next, start, now, post =>
      guarantee.holds start now ∧
        ∀ reply later, guarantee.holds now later → Follows (next reply) start later post
  | .mark milestone next, start, now, post =>
      Follows next start (now.note (.reached milestone)) post

variable {guarantee}

theorem Follows.mono {routine : Routine α} {start now : World}
    {post weaker : Except Raised α → World → Prop}
    (follows : Follows guarantee routine start now post)
    (implies : ∀ outcome later, post outcome later → weaker outcome later) :
    Follows guarantee routine start now weaker := by
  induction routine generalizing now with
  | done outcome => exact implies outcome now follows
  | read next ih => exact ih now.library follows
  | write library next ih => exact ih follows
  | call request next ih =>
    exact ⟨follows.1, fun reply later relied => ih reply (follows.2 reply later relied)⟩
  | mark milestone next ih => exact ih follows

theorem Follows.since {routine : Routine α} {start middle now : World}
    {post : Except Raised α → World → Prop} (before : guarantee.holds start middle)
    (follows : Follows guarantee routine middle now post) :
    Follows guarantee routine start now post := by
  induction routine generalizing now with
  | done outcome => exact follows
  | read next ih => exact ih now.library follows
  | write library next ih => exact ih follows
  | call request next ih =>
    exact ⟨guarantee.trans before follows.1,
      fun reply later relied => ih reply (follows.2 reply later relied)⟩
  | mark milestone next ih => exact ih follows

/-- What a sequence owes after its first part. -/
def Afterwards (guarantee : Guarantee) (next : α → Routine β) (start : World)
    (post : Except Raised β → World → Prop) (outcome : Except Raised α) (now : World) : Prop :=
  match outcome with
  | .ok value => Follows guarantee (next value) start now post
  | .error raised => post (.error raised) now

theorem follows_bind {routine : Routine α} {next : α → Routine β} {start now : World}
    {post : Except Raised β → World → Prop} :
    Follows guarantee (routine >>= next) start now post ↔
      Follows guarantee routine start now (Afterwards guarantee next start post) := by
  change Follows guarantee (routine.bind next) start now post ↔ _
  induction routine generalizing now with
  | done outcome => cases outcome <;> exact Iff.rfl
  | read rest ih => exact ih now.library
  | write library rest ih => exact ih
  | call request rest ih =>
    exact and_congr_right fun _ =>
      forall_congr' fun reply => forall_congr' fun later => imp_congr_right fun _ => ih reply
  | mark milestone rest ih => exact ih

theorem follows_library {next : Library → Routine α} {start now : World}
    {post : Except Raised α → World → Prop}
    (continues : Follows guarantee (next now.library) start now post) :
    Follows guarantee (library >>= next) start now post :=
  continues

/-! ### Routines that only have to meet the guarantee -/

/-- A routine that begins now meets the guarantee to its end. -/
def Honours (guarantee : Guarantee) (routine : Routine α) (now : World) : Prop :=
  Follows guarantee routine now now fun _ later => guarantee.holds now later

theorem Honours.bind {routine : Routine α} {next : α → Routine β} {now : World}
    (first : Honours guarantee routine now)
    (second : ∀ value later, guarantee.holds now later → Honours guarantee (next value) later) :
    Honours guarantee (routine >>= next) now := by
  refine follows_bind.mpr (first.mono fun outcome later reached => ?_)
  cases outcome with
  | error raised => exact reached
  | ok value =>
    exact Follows.since reached ((second value later reached).mono fun _ _ finished =>
      guarantee.trans reached finished)

theorem honours_pure (value : α) (now : World) :
    Honours guarantee (pure value : Routine α) now :=
  guarantee.refl now

theorem honours_raise (raised : Raised) (now : World) :
    Honours guarantee (raise raised : Routine α) now :=
  guarantee.refl now

theorem honours_library {next : Library → Routine α} {now : World}
    (continues : Honours guarantee (next now.library) now) :
    Honours guarantee (library >>= next) now :=
  follows_library continues

theorem honours_edit {change : Edit α} {now : World}
    (kept : guarantee.holds now (now.after change)) : Honours guarantee (edit change) now :=
  kept

theorem honours_ask (request : Call) (now : World) : Honours guarantee (ask request) now := by
  refine ⟨guarantee.refl now, fun reply later relied => ?_⟩
  cases reply <;> exact relied

theorem honours_forM {items : List β} {body : β → Routine Unit} {now : World}
    (each : ∀ item ∈ items, ∀ later, guarantee.holds now later →
      Honours guarantee (body item) later) :
    Honours guarantee (items.forM body) now := by
  induction items generalizing now with
  | nil => exact honours_pure _ now
  | cons item rest ih =>
    refine Honours.bind (each item (List.mem_cons_self ..) now (guarantee.refl now)) ?_
    intro _ later reached
    exact ih fun other member finish further =>
      each other (List.mem_cons_of_mem _ member) finish (guarantee.trans reached further)

end Routine

/-! ### Whole runs -/

open Routine

/-- The history of a run only grows. -/
theorem history_proceed (operation : Operation) (pending : List Frame) (routine : Routine Result)
    (world : World) :
    world.history <+: (Moment.proceed operation pending routine world).history := by
  induction routine generalizing world with
  | done outcome => exact List.prefix_append _ _
  | read next ih => exact ih world.library world
  | write library next ih => exact ih { world with library := library }
  | call request next ih => exact List.prefix_append _ _
  | mark milestone next ih =>
    have noted : world.history <+: (world.note (.reached milestone)).history :=
      List.prefix_append _ _
    exact noted.trans (ih _)

/-- An operation ends where its first edit fails. -/
theorem Moment.start_of_raised_edit {moment : Moment} {operation : Operation} {α : Type}
    {change : Edit α} {next : α → Routine Result} {raised : Raised}
    (begins : operation.routine = (Routine.edit change).bind next)
    (failed : (change.apply moment.library).1 = .error raised) :
    moment.start operation =
      { library := (change.apply moment.library).2
        history := moment.history ++ [.started operation, .finished operation (.error raised)]
        pending := moment.pending } := by
  unfold start
  rw [begins]
  change proceed operation moment.pending ((Routine.done (change.apply moment.library).1).bind next)
    ((moment.note (.started operation)).after change) = _
  rw [failed]
  simp [Routine.bind, proceed, World.note, World.after]

/-- The operations that wait for replies will meet the guarantee, each since
its own start, if the clients do so from now on. -/
def Backed (guarantee : Guarantee) : List Frame → World → Prop
  | [], world => guarantee.holds .initial world
  | frame :: rest, world =>
      ∃ start, Backed guarantee rest start ∧ guarantee.holds start world ∧
        ∀ reply later, guarantee.holds world later →
          Follows guarantee (frame.next reply) start later fun _ finish =>
            guarantee.holds start finish

variable {guarantee : Guarantee}

theorem Backed.later {frames : List Frame} {world later : World}
    (backed : Backed guarantee frames world) (further : guarantee.holds world later) :
    Backed guarantee frames later := by
  cases frames with
  | nil => exact guarantee.trans backed further
  | cons frame rest =>
    obtain ⟨start, outer, reached, continues⟩ := backed
    exact ⟨start, outer, guarantee.trans reached further,
      fun reply finish relied => continues reply finish (guarantee.trans further relied)⟩

theorem Backed.since_initial {frames : List Frame} {world : World}
    (backed : Backed guarantee frames world) : guarantee.holds .initial world := by
  induction frames generalizing world with
  | nil => exact backed
  | cons frame rest ih =>
    obtain ⟨start, outer, reached, _⟩ := backed
    exact guarantee.trans (ih outer) reached

private theorem backed_proceed {operation : Operation} {pending : List Frame} {start : World}
    (outer : Backed guarantee pending start) (routine : Routine Result) (now : World)
    (follows : Follows guarantee routine start now fun _ finish => guarantee.holds start finish) :
    Backed guarantee (Moment.proceed operation pending routine now).pending
      (Moment.proceed operation pending routine now).toWorld := by
  induction routine generalizing now with
  | done outcome =>
    exact outer.later (guarantee.trans follows (guarantee.noted _ _ rfl))
  | read next ih => exact ih now.library now follows
  | write library next ih => exact ih _ follows
  | call request next ih =>
    have noted := guarantee.noted now (.called operation request) rfl
    exact ⟨start, outer, guarantee.trans follows.1 noted, fun reply later relied =>
      follows.2 reply later (guarantee.trans noted relied)⟩
  | mark milestone next ih => exact ih _ follows

/-- When every operation that clients may start honours the guarantee, the
guarantee holds from the beginning of a run to every moment of it. -/
theorem Reachable.backed {rules : Rules} {allowed : Operation → Prop}
    (permits : ∀ moment operation, rules moment (.started operation) → allowed operation)
    (contract : ∀ operation world, allowed operation → operation.Admissible world.library →
      guarantee.holds .initial world → Honours guarantee operation.routine world)
    {moment : Moment} (reachable : Reachable rules moment) :
    Backed guarantee moment.pending moment.toWorld := by
  induction reachable with
  | initial => exact guarantee.refl _
  | @start moment operation before admissible permitted ih =>
    have noted := guarantee.noted moment.toWorld (.started operation) rfl
    have outer := ih.later noted
    exact backed_proceed outer operation.routine _
      (contract operation _ (permits moment operation permitted) admissible outer.since_initial)
  | @resume moment frame rest reply before waiting permitted ih =>
    rw [waiting] at ih
    obtain ⟨start, outer, _, continues⟩ := ih
    exact backed_proceed outer (frame.next reply) _
      (continues reply _ (guarantee.noted moment.toWorld _ rfl))

end ReaderTrace
