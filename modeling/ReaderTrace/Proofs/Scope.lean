import ReaderTrace.Proofs.Disposal
import ReaderTrace.Proofs.Dialogue

/-!
What operations on other program spaces do to the list of one, which is nothing.

An operation names at most one space, and whatever state it goes on from, it leaves
the object files of the others where they are. While a disposal waits for a listener
that names another space or none, the list of its own space therefore stays.
-/

namespace ReaderTrace

open Routine

variable {space : SpaceId}

theorem Routine.Works.keeps {α γ : Type} {settles : Prop} {scope : Concern → Prop}
    {view : Library → γ} {concern : Concern} {routine : Routine α} {now : Library}
    (works : Works settles scope routine now) (outside : ¬scope concern)
    (shows : ∀ library after, concern.Same library after → view after = view library) :
    Keeps view routine now := by
  induction routine generalizing now with
  | done outcome => exact trivial
  | read rest ih => exact ih now works
  | write library rest ih =>
    exact ⟨shows now library (works.1.spares concern outside), ih works.2⟩
  | call request rest ih => exact fun reply later => ih reply (works reply later)
  | mark milestone rest ih => exact ih works.2

theorem Routine.Reworks.steady {α γ : Type} {settles : Prop} {view : Library → γ}
    {concern : Concern} {routine : Routine α}
    (reworks : routine.Reworks settles fun named => named ≠ concern)
    (shows : ∀ library after, concern.Same library after → view after = view library) :
    routine.Steady view :=
  fun now => (reworks now).keeps (not_not_intro rfl) shows

/-- An operation keeps all that it is not about. -/
theorem Operation.spares {γ : Type} {operation : Operation} {view : Library → γ}
    (concern : Concern) (other : ¬operation.Concerns concern)
    (shows : ∀ library after, concern.Same library after → view after = view library) :
    operation.routine.Steady view := by
  have reworks : operation.routine.Reworks operation.Settles fun named => named ≠ concern :=
    operation.reworks fun named isNamed same => other (same ▸ isNamed)
  exact reworks.steady shows

theorem Operation.spares_list {operation : Operation} (other : operation.space? ≠ some space) :
    operation.routine.Steady fun library => library.owned space :=
  spares (.files space) other fun _ _ same => same

theorem Operation.spares_events {operation : Operation} (other : ¬operation.Concerns .events) :
    operation.routine.Steady Library.events :=
  spares .events other fun _ _ same => same

/-- Where an operation comes to that keeps the view: the view is kept, and the call
that may wait now is the operation's own. -/
theorem Routine.Keeps.proceeded {γ : Type} {view : Library → γ} {routine : Routine Result}
    (world : World) (keeps : routine.Keeps view world.library) (operation : Operation)
    (pending : List Frame) :
    view (Moment.proceed operation pending routine world).library = view world.library ∧
      ∃ own, (Moment.proceed operation pending routine world).pending = own ++ pending ∧
        ∀ frame ∈ own, ∀ reply, (frame.next reply).Steady view := by
  induction routine generalizing world with
  | done outcome => exact ⟨rfl, [], rfl, fun _ member => by cases member⟩
  | read rest ih => exact ih world.library world keeps
  | write library rest ih =>
    obtain ⟨same, own⟩ := ih { world with library := library } keeps.2
    exact ⟨same.trans keeps.1, own⟩
  | call request rest _ =>
    refine ⟨rfl, [_], rfl, ?_⟩
    intro frame member
    rw [List.mem_singleton.mp member]
    exact keeps
  | mark milestone rest ih => exact ih (world.note (.reached milestone)) keeps

/-- The view shows `value`, and none of the calls that wait inside `outer` will change
it. -/
structure Undisturbed {γ : Type} (view : Library → γ) (value : γ) (outer : List Frame)
    (moment : Moment) : Prop where
  same : view moment.library = value
  inner : ∃ own, moment.pending = own ++ outer ∧
    ∀ frame ∈ own, ∀ reply, (frame.next reply).Steady view

section Undisturbed

variable {γ : Type} {view : Library → γ} {value : γ} {outer : List Frame} {moment : Moment}

namespace Undisturbed

theorem proceed {routine : Routine Result} {inner : List Frame} (world : World)
    (keeps : routine.Keeps view world.library) (operation : Operation)
    (same : view world.library = value)
    (steady : ∀ frame ∈ inner, ∀ reply, (frame.next reply).Steady view) :
    Undisturbed view value outer (Moment.proceed operation (inner ++ outer) routine world) := by
  obtain ⟨kept, own, pendingEq, ownSteady⟩ := keeps.proceeded world operation (inner ++ outer)
  refine ⟨kept.trans same, own ++ inner, ?_, ?_⟩
  · rw [List.append_assoc]
    exact pendingEq
  · intro frame member
    rcases List.mem_append.mp member with new | old
    · exact ownSteady frame new
    · exact steady frame old

theorem start (undisturbed : Undisturbed view value outer moment) {operation : Operation}
    (keeps : operation.routine.Keeps view moment.library) :
    Undisturbed view value outer (moment.start operation) := by
  obtain ⟨same, inner, pendingEq, steady⟩ := undisturbed
  unfold Moment.start
  rw [pendingEq]
  exact proceed (moment.note (.started operation)) keeps operation same steady

theorem resume (undisturbed : Undisturbed view value outer moment) {frame : Frame}
    {rest : List Frame} (answers : moment.pending = frame :: rest) (kept : outer <:+ rest)
    (reply : Reply) : Undisturbed view value outer (moment.resume frame rest reply) := by
  obtain ⟨same, inner, pendingEq, steady⟩ := undisturbed
  rw [answers] at pendingEq
  cases inner with
  | nil =>
    have shorter := kept.length_le
    rw [List.nil_append] at pendingEq
    rw [← pendingEq, List.length_cons] at shorter
    omega
  | cons head inner =>
    cases pendingEq
    exact proceed (moment.note (.answered frame.operation frame.request reply))
      (steady frame (List.mem_cons_self ..) reply moment.library) frame.operation same
      fun other member => steady other (List.mem_cons_of_mem _ member)

end Undisturbed

variable {rules : Rules}

/-- A view that the operations of clients keep is kept while the calls `waiting` have no
reply. -/
theorem Meanwhile.undisturbed {waiting : List Frame} {made later : Moment}
    (meanwhile : Meanwhile rules waiting made later) (inside : outer <:+ waiting)
    (undisturbed : Undisturbed view value outer made)
    (keeps : ∀ moment operation, Meanwhile rules waiting made moment →
      rules moment (.started operation) → operation.routine.Keeps view moment.library) :
    Undisturbed view value outer later := by
  induction meanwhile with
  | refl => exact undisturbed
  | start operation before admissible permitted ih =>
    exact ih.start (keeps _ operation before permitted)
  | resume reply before answers kept permitted ih =>
    exact ih.resume answers (inside.trans kept) reply

end Undisturbed

/-- What an operation keeps is as it was when the operation was last given control. -/
theorem Dialogue.kept {γ : Type} {view : Library → γ} {rules : Rules} {operation : Operation}
    {outset later : Moment} {exchanges : List Exchange}
    (dialogue : Dialogue rules operation outset exchanges later)
    (steady : operation.routine.Steady view) :
    view later.library = view (outset.latest exchanges).library ∧
      ∀ frame, later.pending = frame :: outset.pending →
        ∀ reply, (frame.next reply).Steady view := by
  have own_single : ∀ {own : List Frame} {frame : Frame} {pending : List Frame},
      pending = own ++ outset.pending → pending = frame :: outset.pending → frame ∈ own := by
    intro own frame pending split asked
    rw [asked, ← List.singleton_append, List.append_cancel_right_eq] at split
    rw [← split]
    exact List.mem_singleton.mpr rfl
  induction dialogue with
  | start admissible permitted =>
    obtain ⟨same, own, split, ownSteady⟩ :=
      (steady outset.library).proceeded (outset.note (.started operation)) operation
        outset.pending
    exact ⟨same, fun frame asked => ownSteady frame (own_single split asked)⟩
  | @resume exchanges made later frame reply before asked meanwhile answers permitted ih =>
    obtain ⟨same, own, split, ownSteady⟩ := (ih.2 frame asked reply later.library).proceeded
      (later.note (.answered frame.operation frame.request reply)) frame.operation outset.pending
    rw [World.latest_append]
    exact ⟨same, fun next waits => ownSteady next (own_single split waits)⟩

/-- No client has changed the view. -/
def Exchange.Spares {γ : Type} (view : Library → γ) (exchange : Exchange) : Prop :=
  view exchange.resumed.library = view exchange.library

/-- What the routine itself keeps is as it was at the origin, as long as clients have
not changed it. -/
theorem Routine.ConductsWhile.kept {α γ : Type} {view : Library → γ} {origin : γ}
    {usual : Exchange → Prop} {during : List Exchange → World → Call → Prop}
    {exchanges : List Exchange} {now : World} {routine : Routine α}
    {post : Except Raised α → List Exchange → World → Prop}
    (conducts : ConductsWhile usual during routine exchanges now post)
    (keeps : routine.Keeps view now.library)
    (before : (∀ exchange ∈ exchanges, exchange.Spares view) → view now.library = origin) :
    ConductsWhile usual
      (fun exchanges now request => during exchanges now request ∧
        ((∀ exchange ∈ exchanges, exchange.Spares view) → view now.library = origin))
      routine exchanges now
      fun outcome exchanges later => post outcome exchanges later ∧
        ((∀ exchange ∈ exchanges, exchange.Spares view) → view later.library = origin) := by
  induction routine generalizing exchanges now with
  | done outcome => exact fun all => ⟨conducts all, before⟩
  | read next ih => exact ih now.library conducts keeps before
  | write library next ih =>
    apply @ih exchanges { now with library := library } conducts keeps.2
    exact fun spared => keeps.1.trans (before spared)
  | call request next ih =>
    refine ⟨fun all => ⟨conducts.1 all, before⟩, fun reply later rewritten => ?_⟩
    apply ih reply (conducts.2 reply later rewritten) (keeps reply later.library)
    intro spared
    have same := spared _ (List.mem_append_right _ (List.mem_singleton.mpr rfl))
    exact Eq.trans same (before fun exchange member =>
      spared exchange (List.mem_append_left _ member))
  | mark milestone next ih =>
    exact @ih exchanges (now.note (.reached milestone)) conducts keeps before

/-- Clients start nothing on the space but its disposal. -/
def Rules.sparing (space : SpaceId) : Rules :=
  .only fun operation => operation.space? = some space → operation = .dispose space

theorem Rules.free_of_sparing (moment : Moment) (happening : Happening)
    (_ : Rules.sparing space moment happening) : Rules.free moment happening :=
  fun _ _ => trivial

/-- While the calls `waiting` have no reply, clients that spare a disposed space leave
its list alone. -/
theorem Meanwhile.spares {waiting : List Frame} {made later : Moment}
    (meanwhile : Meanwhile (.sparing space) waiting made later)
    (reachable : Reachable .free made) (asked : made.pending = waiting)
    (closed : made.library.Closed space) :
    later.library.owned space = made.library.owned space := by
  have undisturbed : Undisturbed (fun library => library.owned space)
      (made.library.owned space) waiting made :=
    ⟨rfl, [], asked, fun _ member => by cases member⟩
  apply (meanwhile.undisturbed (List.suffix_refl _) undisturbed ?_).same
  intro moment operation passed permitted
  by_cases named : operation.space? = some space
  · have closedNow : moment.library.Closed space :=
      (((passed.weaken Rules.free_of_sparing).rewritten reachable).dwindles.closed space closed).1
    have disposal := permitted operation rfl named
    subst disposal
    change Keeps _
      (Routine.bind (if moment.library.isDisposed space then .done (.ok ()) else _) _) _
    rw [if_pos closedNow.isDisposed]
    exact trivial
  · exact Operation.spares_list named moment.library

/-! ### Spaces that were never disposed of -/

theorem ProgramSpace.steady_dispose {other : SpaceId} (different : other ≠ space) :
    (ProgramSpace.dispose other).Steady fun library => library.Closed space := by
  have removes : ∀ count, (ProgramSpace.removeAll other count).Steady
      fun library => library.Closed space := by
    intro count now
    apply ((reworks_removeAll trivial count).rewrites.steady now).coarsen
    exact fun _ _ same => propext (Library.closed_of_grounds same space)
  intro now
  change Keeps _ (if now.isDisposed other then .done (.ok ()) else _) now
  split
  · exact trivial
  · have closing : (Routine.edit (ProgramSpace.unregister other)).Steady
        fun library => library.Closed space := fun _ => ⟨rfl, trivial⟩
    have marked := ProgramSpace.closed_markDisposed_of_ne now different.symm
    exact ⟨propext marked, (removes _ _).bind fun _ => closing⟩

/-- Only a disposal of the space closes it. -/
theorem Operation.spares_closed {operation : Operation} (other : operation ≠ .dispose space) :
    operation.routine.Steady fun library => library.Closed space := by
  by_cases settles : operation.Settles
  · cases operation with
    | createSpace name =>
      exact fun now => ⟨propext (ProgramSpace.closed_create now name space), trivial⟩
    | dispose disposed =>
      have different : disposed ≠ space := fun same => other (congrArg Operation.dispose same)
      exact fun now => (ProgramSpace.steady_dispose different now).bind fun _ _ => trivial
    | _ => exact absurd settles not_false
  · intro now
    apply (Operation.steady settles now).coarsen
    exact fun _ _ same => propext (Library.closed_of_grounds same space)

/-- A space that counts as disposed was disposed of. -/
theorem Reachable.started_of_closed {moment : Moment} (reachable : Reachable .free moment)
    (closed : moment.library.Closed space) :
    Happening.started (.dispose space) ∈ moment.history := by
  -- Until a disposal is started the space is open, and no call that waits will close it.
  have either : Happening.started (.dispose space) ∈ moment.history ∨
      Undisturbed (fun library => library.Closed space) False [] moment := by
    clear closed
    induction reachable with
    | initial =>
      refine Or.inr ⟨eq_false ?_, [], rfl, fun frame member => by cases member⟩
      rintro ⟨record, found, _⟩
      cases found
    | @start moment operation before admissible permitted ih =>
      have grows := history_proceed operation moment.pending operation.routine
        (moment.note (.started operation))
      rcases ih with started | undisturbed
      · exact Or.inl (grows.subset (List.mem_append_left _ started))
      · by_cases same : operation = .dispose space
        · rw [same] at grows ⊢
          exact Or.inl (grows.subset (List.mem_append_right _ (List.mem_singleton.mpr rfl)))
        · exact Or.inr (undisturbed.start (Operation.spares_closed same moment.library))
    | @resume moment frame rest reply before waiting permitted ih =>
      have grows := history_proceed frame.operation rest (frame.next reply)
        (moment.note (.answered frame.operation frame.request reply))
      rcases ih with started | undisturbed
      · exact Or.inl (grows.subset (List.mem_append_left _ started))
      · exact Or.inr (undisturbed.resume waiting List.nil_suffix reply)
  rcases either with started | undisturbed
  · exact started
  · exact (undisturbed.same.mp closed).elim

/-- A space that exists and was never disposed of is open. -/
theorem Reachable.isDisposed_of_never {moment : Moment} (reachable : Reachable .free moment)
    (known : (moment.library.space? space).isSome = true)
    (never : Happening.started (.dispose space) ∉ moment.history) :
    moment.library.isDisposed space = false := by
  obtain ⟨record, found⟩ := Option.isSome_iff_exists.mp known
  unfold Library.isDisposed
  rw [found]
  apply eq_false_of_ne_true
  intro disposed
  exact never (reachable.started_of_closed ⟨record, found, disposed⟩)

end ReaderTrace
