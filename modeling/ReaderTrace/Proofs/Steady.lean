import ReaderTrace.Moment
import ReaderTrace.Proofs.Edits

/-!
What a routine itself leaves alone.

A routine keeps a view of the library when none of its own changes shows in the
view. What clients do while it waits for a reply is not its doing: they start
operations of their own.
-/

namespace ReaderTrace

variable {α γ : Type} {view : Library → γ}

namespace Routine

/-- From the library `now` on, the changes of the routine itself keep the
view. -/
def Keeps (view : Library → γ) : Routine α → Library → Prop
  | .done _, _ => True
  | .read next, now => Keeps view (next now) now
  | .write library next, now => view library = view now ∧ Keeps view next library
  | .call _ next, _ => ∀ reply later, Keeps view (next reply) later
  | .mark _ next, now => Keeps view next now

def Steady (view : Library → γ) (routine : Routine α) : Prop :=
  ∀ now, Keeps view routine now

theorem Writes.keeps {settles : Prop} {routine : Routine α} {now : Library}
    (writes : Writes settles routine now)
    (shows : ∀ library after, Rewritten settles library after → view after = view library) :
    Keeps view routine now := by
  induction routine generalizing now with
  | done outcome => exact trivial
  | read rest ih => exact ih now writes
  | write library rest ih => exact ⟨shows now library writes.1, ih writes.2⟩
  | call request rest ih => exact fun reply later => ih reply (writes reply later)
  | mark milestone rest ih => exact ih writes

/-- What shows less is kept as well. -/
theorem Keeps.coarsen {δ : Type} {coarse : Library → δ} {routine : Routine α} {now : Library}
    (keeps : Keeps view routine now)
    (shows : ∀ library after, view after = view library → coarse after = coarse library) :
    Keeps coarse routine now := by
  induction routine generalizing now with
  | done outcome => exact trivial
  | read rest ih => exact ih now keeps
  | write library rest ih => exact ⟨shows now library keeps.1, ih keeps.2⟩
  | call request rest ih => exact fun reply later => ih reply (keeps reply later)
  | mark milestone rest ih => exact ih keeps

theorem Keeps.bind {β : Type} {routine : Routine α} {next : α → Routine β} {now : Library}
    (keeps : Keeps view routine now) (second : ∀ value, (next value).Steady view) :
    Keeps view (routine.bind next) now := by
  induction routine generalizing now with
  | done outcome =>
    cases outcome with
    | ok value => exact second value now
    | error raised => exact trivial
  | read rest ih => exact ih now keeps
  | write library rest ih => exact ⟨keeps.1, ih keeps.2⟩
  | call request rest ih => exact fun reply later => ih reply (keeps reply later)
  | mark milestone rest ih => exact ih keeps

theorem keeps_edit {β : Type} {change : Edit α} {next : α → Routine β} {now : Library}
    (same : view (change.apply now).2 = view now)
    (continues : ∀ value, (change.apply now).1 = .ok value →
      Keeps view (next value) (change.apply now).2) :
    Keeps view (edit change >>= next) now := by
  refine ⟨same, ?_⟩
  change Keeps view (Routine.bind (.done (change.apply now).1) next) (change.apply now).2
  cases outcome : (change.apply now).1 with
  | ok value => exact continues value outcome
  | error raised => exact trivial

end Routine

/-! ### From one call to the next -/

/-- A stretch of a run in which a routine is carried on and no client has
control. -/
structure Stretch (view : Library → γ) (world now : World) : Prop where
  same : view now.library = view world.library
  history : ∃ milestones : List Milestone,
    now.history = world.history ++ milestones.map .reached

namespace Stretch

theorem refl (world : World) : Stretch view world world :=
  ⟨rfl, [], (List.append_nil _).symm⟩

theorem trans {world middle now : World} (first : Stretch view world middle)
    (second : Stretch view middle now) : Stretch view world now := by
  obtain ⟨earlier, middleEq⟩ := first.history
  obtain ⟨later, nowEq⟩ := second.history
  constructor
  · exact second.same.trans first.same
  · exists earlier ++ later
    rw [nowEq, middleEq, List.map_append, List.append_assoc]

theorem reached (world : World) (milestone : Milestone) :
    Stretch view world (world.note (.reached milestone)) :=
  ⟨rfl, [milestone], rfl⟩

end Stretch

/-- Where a routine that does `body` before `tail` comes to: to a call that
`body` makes, or to the point at which `body` has ended. -/
inductive Carried (view : Library → γ) (operation : Operation) (pending : List Frame)
    (tail : α → Routine Result) (world : World) : Moment → Prop
  | waiting {now : World} {request : Call} {next : Reply → Routine α}
      (stretch : Stretch view world now) (steady : ∀ reply, (next reply).Steady view) :
      Carried view operation pending tail world
        { now.note (.called operation request) with
          pending :=
            { operation := operation, request := request
              next := fun reply => (next reply).bind tail } :: pending }
  | ended {now : World} {outcome : Except Raised α} (stretch : Stretch view world now) :
      Carried view operation pending tail world
        (Moment.proceed operation pending ((Routine.done outcome).bind tail) now)

theorem Carried.since {operation : Operation} {pending : List Frame} {tail : α → Routine Result}
    {world middle : World} {moment : Moment} (before : Stretch view world middle)
    (carried : Carried view operation pending tail middle moment) :
    Carried view operation pending tail world moment := by
  cases carried with
  | waiting stretch steady => exact .waiting (before.trans stretch) steady
  | ended stretch => exact .ended (before.trans stretch)

theorem Routine.Keeps.carried {body : Routine α} {world : World}
    (keeps : body.Keeps view world.library) (operation : Operation) (pending : List Frame)
    (tail : α → Routine Result) :
    Carried view operation pending tail world
      (Moment.proceed operation pending (body.bind tail) world) := by
  induction body generalizing world with
  | done outcome => exact .ended (.refl world)
  | read rest ih => exact ih world.library keeps
  | write library rest ih =>
    have changed : Stretch view world { world with library := library } :=
      ⟨keeps.1, [], (List.append_nil _).symm⟩
    have onward : Carried view operation pending tail { world with library := library }
        (Moment.proceed operation pending (rest.bind tail) { world with library := library }) :=
      ih keeps.2
    exact onward.since changed
  | call request rest _ => exact .waiting (.refl world) keeps
  | mark milestone rest ih =>
    have onward : Carried view operation pending tail (world.note (.reached milestone))
        (Moment.proceed operation pending (rest.bind tail) (world.note (.reached milestone))) :=
      ih keeps
    exact onward.since (.reached world milestone)

end ReaderTrace
