import Mathlib.Data.List.Perm.Subperm
import ReaderTrace.Proofs.Numbering
import ReaderTrace.Proofs.Removal
import ReaderTrace.Proofs.Scope

/-!
What the disposal of a program space comes to, whatever its listeners do meanwhile.

Between two calls a disposal takes files off the end of the list and does nothing
else to program spaces. What listeners do in between can only make the list shorter,
because a disposed space takes no new files. So the loop ends, after at most as many
rounds as there were files, and it ends with an empty list.
-/

namespace ReaderTrace

open Routine

/-! ### The order of announcements -/

def Milestone.destroyed? : Milestone → Option ObjectFileId
  | .destroyed file => some file
  | .tableSet _ _ => none

/-- The object files whose destruction was announced, in this order. -/
def World.announced (world : World) : List ObjectFileId :=
  world.milestones.filterMap Milestone.destroyed?

namespace World

variable {world now : World}

theorem announced_of_history {files : List ObjectFileId}
    (history : now.history = world.history ++ files.map fun file => .reached (.destroyed file)) :
    now.announced = world.announced ++ files := by
  have added : ((files.map fun file => Happening.reached (.destroyed file)).filterMap
      Happening.milestone?).filterMap Milestone.destroyed? = files := by
    simp [List.filterMap_map, Function.comp_def, Happening.milestone?, Milestone.destroyed?]
  unfold announced milestones
  rw [history, List.filterMap_append, List.filterMap_append, added]

theorem announced_note (world : World) {happening : Happening}
    (plain : happening.milestone? = none) : (world.note happening).announced = world.announced := by
  unfold announced
  rw [milestones_note, plain]
  simp

theorem announced_prefix (history : world.history <+: now.history) :
    world.announced <+: now.announced := by
  exact (history.filterMap _).filterMap _

theorem count_announced (world : World) (file : ObjectFileId) :
    world.announced.count file = world.destructions file := by
  unfold announced destructions
  induction world.milestones with
  | nil => rfl
  | cons milestone rest ih =>
    cases milestone with
    | tableSet other table =>
      have passed : (Milestone.tableSet other table :: rest).filterMap Milestone.destroyed? =
          rest.filterMap Milestone.destroyed? := rfl
      rw [passed, ih, List.count_cons_of_ne (by simp)]
    | destroyed other =>
      have kept : (Milestone.destroyed other :: rest).filterMap Milestone.destroyed? =
          other :: rest.filterMap Milestone.destroyed? := rfl
      rw [kept, List.count_cons, List.count_cons, ih]
      simp

end World

/-! ### Between two calls -/

/-- The destruction of `files` was announced, in this order; they were taken off the
end of the list. Nothing else about program spaces is different. -/
structure Stride (space : SpaceId) (world : World) (files : List ObjectFileId) (now : World) :
    Prop where
  history : now.history = world.history ++ files.map fun file => .reached (.destroyed file)
  owned : world.library.owned space = now.library.owned space ++ files.reverse
  others : ∀ other, other ≠ space → now.library.owned other = world.library.owned other
  grounds : now.library.grounds = world.library.grounds

namespace Stride

variable {space : SpaceId} {world middle now : World} {files more : List ObjectFileId}
  {file : ObjectFileId}

theorem of_owned (history : now.history = world.history)
    (owned : ∀ space, now.library.owned space = world.library.owned space)
    (grounds : now.library.grounds = world.library.grounds) : Stride space world [] now where
  history := by simp [history]
  owned := by simp [owned]
  others := fun other _ => owned other
  grounds := grounds

theorem refl (space : SpaceId) (world : World) : Stride space world [] world :=
  of_owned rfl (fun _ => rfl) rfl

theorem trans (first : Stride space world files middle) (second : Stride space middle more now) :
    Stride space world (files ++ more) now where
  history := by rw [second.history, first.history, List.map_append, List.append_assoc]
  owned := by rw [first.owned, second.owned, List.reverse_append, List.append_assoc]
  others := fun other different =>
    (second.others other different).trans (first.others other different)
  grounds := second.grounds.trans first.grounds

theorem struck (last : (world.library.owned space).getLast? = some file)
    (nodup : (world.library.owned space).Nodup) :
    Stride space world [file] (world.withoutFile space file) := by
  constructor
  · rfl
  · exact ProgramSpace.owned_struck_last last nodup
  · intro other different
    change (ProgramSpace.struck world.library space file).owned other = _
    rw [ProgramSpace.owned_struck, if_neg different]
  · exact world.library.grounds_modifySpace_of_kept space fun _ => rfl

theorem released (space : SpaceId) (world : World) (file : ObjectFileId) :
    Stride space world [] (world.after (Logging.release file)) := by
  have bareEq := Logging.bare_release world.library file
  have ownedEq : ∀ other,
      (world.after (Logging.release file)).library.owned other = world.library.owned other := by
    intro other
    change ((Logging.release file).apply world.library).2.owned other = _
    rw [← Library.owned_bare, bareEq, Library.owned_bare]
  have groundsEq := congrArg Library.grounds bareEq
  exact of_owned rfl ownedEq groundsEq

end Stride

/-- The removals of a disposal up to some point, from the world in which the space was
marked as disposed: `files` were removed in this order, and the listeners' replies
were had in between. -/
inductive Clears (space : SpaceId) (begun : World) :
    List Exchange → List ObjectFileId → World → Prop
  | first {files : List ObjectFileId} {now : World} (stride : Stride space begun files now) :
      Clears space begun [] files now
  | next {exchanges : List Exchange} {files more : List ObjectFileId} {made now : World}
      {exchange : Exchange} (before : Clears space begun exchanges files made)
      (asked : exchange.library = made.library)
      (stride : Stride space exchange.resumed more now) :
      Clears space begun (exchanges ++ [exchange]) (files ++ more) now

namespace Clears

variable {space : SpaceId} {begun now later : World} {exchanges : List Exchange}
  {files more : List ObjectFileId}

theorem extend (clears : Clears space begun exchanges files now)
    (stride : Stride space now more later) :
    Clears space begun exchanges (files ++ more) later := by
  cases clears with
  | first before => exact .first (before.trans stride)
  | next before asked since =>
    rw [List.append_assoc]
    exact .next before asked (since.trans stride)

theorem of_nil (clears : Clears space begun [] files now) : Stride space begun files now := by
  generalize none : ([] : List Exchange) = all at clears
  cases clears with
  | first stride => exact stride
  | next => exact absurd none.symm (List.concat_ne_nil _ _)

theorem of_concat {exchange : Exchange}
    (clears : Clears space begun (exchanges ++ [exchange]) files now) :
    ∃ earlier more made, files = earlier ++ more ∧ Clears space begun exchanges earlier made ∧
      exchange.library = made.library ∧ Stride space exchange.resumed more now := by
  generalize whole : exchanges ++ [exchange] = all at clears
  cases clears with
  | first => exact absurd whole (List.concat_ne_nil _ _)
  | next before asked stride =>
    obtain ⟨rfl, last⟩ := List.append_inj' whole rfl
    cases last
    exact ⟨_, _, _, rfl, before, asked, stride⟩

/-- What was removed can be told from what is left. -/
theorem unique {there : World} {others : List ObjectFileId}
    (clears : Clears space begun exchanges files now)
    (again : Clears space begun exchanges others there)
    (same : now.library.owned space = there.library.owned space) : files = others := by
  induction clears generalizing others there with
  | first stride =>
    have removed := again.of_nil.owned
    rw [stride.owned, same] at removed
    exact List.reverse_injective (List.append_cancel_left removed)
  | next before asked stride ih =>
    obtain ⟨earlier, more, made, rfl, clearsBefore, otherAsked, otherStride⟩ := again.of_concat
    have sameBefore := ih clearsBefore (by rw [← asked, otherAsked])
    have removed := otherStride.owned
    rw [stride.owned, same] at removed
    rw [sameBefore, List.reverse_injective (List.append_cancel_left removed)]

/-- What is left and what was removed were listed at the outset. -/
theorem remaining (clears : Clears space begun exchanges files now)
    (shrinks : ∀ exchange ∈ exchanges,
      (exchange.resumed.library.owned space).Sublist (exchange.library.owned space)) :
    (now.library.owned space ++ files.reverse).Sublist (begun.library.owned space) := by
  induction clears with
  | first stride => rw [stride.owned]
  | @next exchanges files more made now exchange _ asked stride ih =>
    have earlier := ih fun other member => shrinks other (List.mem_append_left _ member)
    have last := shrinks exchange (List.mem_append_right _ (List.mem_singleton.mpr rfl))
    rw [stride.owned, asked] at last
    rw [List.reverse_append, ← List.append_assoc]
    exact (last.append_right _).trans earlier

theorem exact_of_spared (clears : Clears space begun exchanges files now)
    (spared : ∀ exchange ∈ exchanges,
      exchange.resumed.library.owned space = exchange.library.owned space) :
    now.library.owned space ++ files.reverse = begun.library.owned space := by
  induction clears with
  | first stride => exact stride.owned.symm
  | @next exchanges files more made now exchange _ asked stride ih =>
    have earlier := ih fun other member => spared other (List.mem_append_left _ member)
    have last := spared exchange (List.mem_append_right _ (List.mem_singleton.mpr rfl))
    rw [stride.owned, asked] at last
    rw [List.reverse_append, ← List.append_assoc, last]
    exact earlier

end Clears

/-! ### The disposal itself -/

/-- The client returned, and the space is still registered in a library to which a run
can lead. -/
structure Exchange.Ordinary (space : SpaceId) (exchange : Exchange) : Prop where
  returned : ∃ value, exchange.reply = .returned value
  begun : Begun (fun _ => True) exchange.resumed
  registered : space ∈ exchange.resumed.library.registry

/-- A listener is told of the file that was removed last. -/
def TellsLast (space : SpaceId) (begun : World) (exchanges : List Exchange) (now : World)
    (request : Call) : Prop :=
  ∃ files file listener, Clears space begun exchanges files now ∧
    files.getLast? = some file ∧ request = .function listener none [.objectFile file]

/-- Where a disposal stands between two edits. -/
structure Clearing (space : SpaceId) (begun : World) (exchanges : List Exchange)
    (files : List ObjectFileId) (now : World) : Prop where
  clears : Clears space begun exchanges files now
  begun : Begun (fun _ => True) now
  closed : now.library.Closed space
  registered : space ∈ now.library.registry

section Conducts

variable {space : SpaceId} {begun now : World} {exchanges : List Exchange}
  {files : List ObjectFileId} {file : ObjectFileId} {α : Type}

theorem Clearing.extend {more : List ObjectFileId} {later : World}
    (clearing : Clearing space begun exchanges files now)
    (stride : Stride space now more later) (begunLater : Begun (fun _ => True) later) :
    Clearing space begun exchanges (files ++ more) later where
  clears := clearing.clears.extend stride
  begun := begunLater
  closed := (Library.closed_of_grounds stride.grounds space).mpr clearing.closed
  registered := by
    rw [Library.registry_of_grounds stride.grounds]
    exact clearing.registered

/-- One client is told of the file that was removed last. -/
theorem conducts_tell (clearing : Clearing space begun exchanges files now)
    (current : files.getLast? = some file) (function : FunctionId) :
    ConductsWhile (Exchange.Ordinary space) (TellsLast space begun)
      (Event.notify (.objectFile file) (.client function)) exchanges now
      fun outcome after later => ∃ value, outcome = .ok value ∧
        Clearing space begun after files later ∧ Dwindles now.library later.library := by
  refine ⟨fun _ => ⟨files, file, function, clearing.clears, current, rfl⟩, ?_⟩
  intro reply later rewritten
  cases reply with
  | returned value =>
    intro ordinary
    have last := ordinary _ (List.mem_append_right _ (List.mem_singleton.mpr rfl))
    have dwindles := rewritten.dwindles
    refine ⟨(), rfl, ⟨?_, last.begun, (dwindles.closed space clearing.closed).1,
      last.registered⟩, dwindles⟩
    rw [← List.append_nil files]
    exact .next clearing.clears rfl (.refl space later)
  | thrown value =>
    intro ordinary
    obtain ⟨_, impossible⟩ :=
      (ordinary _ (List.mem_append_right _ (List.mem_singleton.mpr rfl))).returned
    cases impossible

/-- All clients that listened when the announcement began are told. -/
theorem conducts_tellAll (clearing : Clearing space begun exchanges files now)
    (current : files.getLast? = some file) (functions : List FunctionId) :
    ConductsWhile (Exchange.Ordinary space) (TellsLast space begun)
      ((functions.map Listener.client).forM (Event.notify (.objectFile file))) exchanges now
      fun outcome after later => ∃ value, outcome = .ok value ∧
        Clearing space begun after files later ∧ Dwindles now.library later.library := by
  induction functions generalizing exchanges now with
  | nil => exact fun _ => ⟨(), rfl, clearing, .refl now.library⟩
  | cons function rest ih =>
    change ConductsWhile _ _ (Event.notify (.objectFile file) (.client function) >>= fun _ =>
      (rest.map Listener.client).forM (Event.notify (.objectFile file))) exchanges now _
    apply (conducts_tell clearing current function).bind_ok
    intro _ after middle ⟨clearingAfter, dwindles⟩
    apply (ih clearingAfter).mono
    intro outcome told later ⟨value, ok, clearingLater, further⟩
    exact ⟨value, ok, clearingLater, dwindles.trans further⟩

/-- The library lets go of the file before the clients are told. -/
theorem conducts_announce (clearing : Clearing space begun exchanges files now)
    (current : files.getLast? = some file)
    (gone : now.library.Gone file) (attached : now.library.isAttached file = true) :
    ConductsWhile (Exchange.Ordinary space) (TellsLast space begun)
      (Event.post destroyedEvent (.objectFile file)) exchanges now
      fun outcome after later => ∃ value, outcome = .ok value ∧
        Clearing space begun after files later ∧ Dwindles now.library later.library := by
  obtain ⟨functions, listenersEq⟩ := clearing.begun.attentive.first
  have releases := clearing.begun.sound.debugDataOf?_release attached
  apply conducts_library
  rw [listenersEq]
  change ConductsWhile _ _ (Routine.edit (Logging.release file) >>= fun _ =>
    (functions.map Listener.client).forM (Event.notify (.objectFile file))) exchanges now _
  have moved : Move (fun _ => True) now (now.after (Logging.release file)) :=
    .relogged (.released file gone)
  apply conductsWhile_edit
  · intro _ _
    have released := clearing.extend (.released space now file) (clearing.begun.tail moved)
    rw [List.append_nil] at released
    apply (conducts_tellAll released current functions).mono
    intro outcome after later ⟨value, ok, clearingLater, dwindles⟩
    exact ⟨value, ok, clearingLater, moved.rewritten.dwindles.trans dwindles⟩
  · intro error failed
    rw [releases.1] at failed
    cases failed

/-- One round of the loop. -/
theorem conducts_removal (clearing : Clearing space begun exchanges files now)
    (last : (now.library.owned space).getLast? = some file) :
    ConductsWhile (Exchange.Ordinary space) (TellsLast space begun)
      (ProgramSpace.removeObjectFile space file) exchanges now
      fun outcome after later => ∃ value, outcome = .ok value ∧
        Clearing space begun after (files ++ [file]) later ∧
        (later.library.owned space).length < (now.library.owned space).length := by
  have registered := clearing.begun.sound.registered
  have member := List.mem_of_getLast? last
  have struck := Stride.struck last (registered.nodup space)
  have without := clearing.extend struck (clearing.begun.tail (Move.withoutFile member))
  have gone : (now.withoutFile space file).library.Gone file := registered.gone_struck member
  have attached : (now.withoutFile space file).library.isAttached file = true :=
    registered.attached space file member
  have fewer : ((now.withoutFile space file).library.owned space).length <
      (now.library.owned space).length := by
    rw [struck.owned, List.length_append]
    simp
  change ConductsWhile _ _ (Routine.edit (ProgramSpace.strike space file) >>= _) exchanges now _
  apply conductsWhile_edit
  · intro _ _
    have announced : (now.after (ProgramSpace.strike space file)).note
        (.reached (.destroyed file)) = now.withoutFile space file := by
      unfold World.after World.withoutFile
      rw [ProgramSpace.apply_strike_of_mem member]
    change ConductsWhile _ _ (Event.post destroyedEvent (.objectFile file) >>= fun _ =>
      Routine.edit (Edit.detach file)) exchanges
        ((now.after (ProgramSpace.strike space file)).note (.reached (.destroyed file))) _
    rw [announced]
    have current : (files ++ [file]).getLast? = some file := List.getLast?_concat
    apply (conducts_announce without current gone attached).bind_ok
    intro _ after told ⟨clearingTold, dwindles⟩ _
    have goneTold := dwindles.progress.gone file gone
    have detached : Stride space told [] (told.after (Edit.detach file)) :=
      .of_owned rfl (fun _ => rfl) rfl
    have clearingLater :=
      clearingTold.extend detached (clearingTold.begun.tail (.fileDetached file goneTold))
    rw [List.append_nil] at clearingLater
    have shorter := (dwindles.closed space without.closed).2.length_le
    exact ⟨(), rfl, clearingLater, Nat.lt_of_le_of_lt shorter fewer⟩
  · intro error failed
    rw [ProgramSpace.apply_strike_of_mem member] at failed
    cases failed

/-- The loop ends because the list is empty, not because the rounds are used up. -/
theorem conducts_removals {count : Nat} (clearing : Clearing space begun exchanges files now)
    (enough : (now.library.owned space).length ≤ count) :
    ConductsWhile (Exchange.Ordinary space) (TellsLast space begun)
      (ProgramSpace.removeAll space count) exchanges now
      fun outcome after later => ∃ value, outcome = .ok value ∧
        (∃ files, Clearing space begun after files later) ∧
        later.library.owned space = [] := by
  induction count generalizing exchanges files now with
  | zero =>
    have empty := List.length_eq_zero_iff.mp (Nat.le_zero.mp enough)
    exact fun _ => ⟨(), rfl, ⟨files, clearing⟩, empty⟩
  | succ count ih =>
    apply conducts_library
    cases last : (now.library.owned space).getLast? with
    | none => exact fun _ => ⟨(), rfl, ⟨files, clearing⟩, List.getLast?_eq_none_iff.mp last⟩
    | some file =>
      apply (conducts_removal clearing last).bind_ok
      intro _ after later ⟨clearingLater, fewer⟩
      exact ih clearingLater (by omega)

/-- The disposal of an open space, from the world in which it was started. -/
theorem conducts_disposal {world : World} (begunWorld : Begun (fun _ => True) world)
    (opened : world.library.isDisposed space = false) :
    ConductsWhile (Exchange.Ordinary space)
      (TellsLast space (world.after (ProgramSpace.markDisposed space)))
      (Operation.dispose space).routine [] world
      fun outcome after later => outcome = .ok .nothing ∧ ∃ files now,
        Clearing space (world.after (ProgramSpace.markDisposed space)) after files now ∧
        now.library.owned space = [] ∧ later = now.after (ProgramSpace.unregister space) := by
  have clearing : Clearing space (world.after (ProgramSpace.markDisposed space)) [] []
      (world.after (ProgramSpace.markDisposed space)) :=
    { clears := .first (.refl space _)
      begun := begunWorld.tail (.spaceClosed space opened)
      closed := ProgramSpace.closed_markDisposed opened
      registered := begunWorld.sound.registered.opened space opened }
  have enough : ((world.after (ProgramSpace.markDisposed space)).library.owned space).length ≤
      (world.library.owned space).length :=
    Nat.le_of_eq (congrArg List.length (ProgramSpace.owned_markDisposed world.library space space))
  have disposing : ConductsWhile (Exchange.Ordinary space)
      (TellsLast space (world.after (ProgramSpace.markDisposed space)))
      (ProgramSpace.dispose space) [] world
      fun outcome after later => ∃ value, outcome = .ok value ∧ ∃ files now,
        Clearing space (world.after (ProgramSpace.markDisposed space)) after files now ∧
        now.library.owned space = [] ∧ later = now.after (ProgramSpace.unregister space) := by
    apply conducts_library
    rw [if_neg (ne_true_of_eq_false opened)]
    apply conductsWhile_edit
    · intro _ _
      apply (conducts_removals clearing enough).bind_ok
      intro _ after now ⟨⟨files, clearingNow⟩, empty⟩ _
      exact ⟨(), rfl, files, now, clearingNow, empty, rfl⟩
    · intro error failed
      cases failed
  apply disposing.bind_ok
  intro _ after later finished _
  exact ⟨rfl, finished⟩

end Conducts

/-! ### Dialogues of a disposal -/

section Dialogues

variable {rules : Rules} {space : SpaceId} {outset later : Moment} {exchanges : List Exchange}

theorem Dialogue.operation_eq {operation : Operation} {frame : Frame}
    (reachable : Reachable rules outset)
    (dialogue : Dialogue rules operation outset exchanges later)
    (asked : later.pending = frame :: outset.pending) : frame.operation = operation := by
  have standing := dialogue.standing reachable (conducts_any _)
  cases standing with
  | waiting asks onward =>
    cases asked
    rfl
  | ended meets => exact absurd asked.symm (List.cons_ne_self frame outset.pending)

theorem Dialogue.closed (reachable : Reachable .free outset)
    (opened : outset.library.isDisposed space = false)
    (dialogue : Dialogue .free (.dispose space) outset exchanges later) :
    later.library.Closed space := by
  have known : (outset.library.space? space).isSome = true := by
    unfold Library.isDisposed at opened
    cases found : outset.library.space? space with
    | none => simp [found] at opened
    | some record => rfl
  induction dialogue with
  | start => exact (Moment.closed_start_dispose reachable known).1
  | @resume exchanges made later frame reply before asked meanwhile answers permitted ih =>
    have madeReachable := before.reachable reachable
    have laterReachable := meanwhile.reachable madeReachable
    have onward := Moment.rewritten_resume reply answers laterReachable.rewrites
    have rewritten := (meanwhile.rewritten madeReachable).trans onward.1
    exact ((Rewritten.dwindles rewritten).closed space ih).1

/-- While listeners are told, the list of the disposed space only gets shorter. -/
theorem Dialogue.shrinks (reachable : Reachable .free outset)
    (opened : outset.library.isDisposed space = false)
    (dialogue : Dialogue .free (.dispose space) outset exchanges later) :
    ∀ exchange ∈ exchanges,
      (exchange.resumed.library.owned space).Sublist (exchange.library.owned space) := by
  induction dialogue with
  | start => intro exchange member; cases member
  | @resume exchanges made later frame reply before asked meanwhile answers permitted ih =>
    intro exchange member
    rcases List.mem_append.mp member with earlier | last
    · exact ih exchange earlier
    · rw [List.mem_singleton.mp last]
      have rewritten := meanwhile.rewritten (before.reachable reachable)
      exact (rewritten.dwindles.closed space (before.closed reachable opened)).2

/-- Listeners that spare the space leave its list alone. -/
theorem Dialogue.spares (reachable : Reachable .free outset)
    (opened : outset.library.isDisposed space = false)
    (dialogue : Dialogue (.sparing space) (.dispose space) outset exchanges later) :
    ∀ exchange ∈ exchanges,
      exchange.resumed.library.owned space = exchange.library.owned space := by
  induction dialogue with
  | start => intro exchange member; cases member
  | @resume exchanges made later frame reply before asked meanwhile answers permitted ih =>
    intro exchange member
    rcases List.mem_append.mp member with earlier | last
    · exact ih exchange earlier
    · rw [List.mem_singleton.mp last]
      have free := before.weaken Rules.free_of_sparing
      exact meanwhile.spares (free.reachable reachable) asked (free.closed reachable opened)

/-- Where listeners return, a disposal goes on from libraries in which the space is
still registered. -/
theorem Dialogue.ordinary (reachable : Reachable .free outset)
    (dialogue : Dialogue .free (.dispose space) outset exchanges later)
    (returned : ∀ exchange ∈ exchanges, ∃ value, exchange.reply = .returned value) :
    ∀ exchange ∈ exchanges, exchange.Ordinary space := by
  induction dialogue with
  | start => intro exchange member; cases member
  | @resume exchanges made later frame reply before asked meanwhile answers permitted ih =>
    intro exchange member
    have replied := returned exchange member
    rcases List.mem_append.mp member with earlier | last
    · exact ih (fun other found => returned other (List.mem_append_left _ found)) exchange earlier
    · rw [List.mem_singleton.mp last] at replied ⊢
      have laterReachable := meanwhile.reachable (before.reachable reachable)
      have underway : space ∈ disposing later.pending := by
        apply mem_disposing_iff.mpr
        refine ⟨frame, ?_, before.operation_eq reachable asked⟩
        rw [answers]
        exact List.mem_cons_self ..
      have held := laterReachable.orderly.disposals.held space (Or.inl underway)
      exact ⟨replied, laterReachable.begun_free.tail (.aside (.noted _ rfl)), held.2⟩

end Dialogues

/-! ### The statement about runs -/

/-- Where a disposal is after `exchanges`, having removed `files`: it waits for a
listener that is told of the last of them, or it has ended normally. Then the list is
empty, and the space alone was taken out of the registry. -/
inductive Vacating (space : SpaceId) (outset : Moment) (exchanges : List Exchange)
    (files : List ObjectFileId) : Moment → Prop
  | waiting {now : World} {file : ObjectFileId} {listener : FunctionId}
      {next : Reply → Routine Result}
      (clears : Clears space
        ((outset.note (.started (.dispose space))).after (ProgramSpace.markDisposed space))
        exchanges files now)
      (current : files.getLast? = some file) :
      Vacating space outset exchanges files
        { now.note (.called (.dispose space) (.function listener none [.objectFile file])) with
          pending :=
            { operation := .dispose space
              request := .function listener none [.objectFile file]
              next := next } :: outset.pending }
  | ended {now : World}
      (clears : Clears space
        ((outset.note (.started (.dispose space))).after (ProgramSpace.markDisposed space))
        exchanges files now)
      (empty : now.library.owned space = []) (registered : space ∈ now.library.registry)
      (forgotten : space ∉ now.library.registry.erase space) :
      Vacating space outset exchanges files
        { library := { now.library with registry := now.library.registry.erase space }
          history := now.history ++ [.finished (.dispose space) (.ok .nothing)]
          pending := outset.pending }

section Vacating

variable {space : SpaceId} {outset later : Moment} {exchanges : List Exchange}
  {files : List ObjectFileId}

theorem Dialogue.vacating (reachable : Reachable .free outset)
    (opened : outset.library.isDisposed space = false)
    (dialogue : Dialogue .free (.dispose space) outset exchanges later)
    (returned : ∀ exchange ∈ exchanges, ∃ value, exchange.reply = .returned value) :
    ∃ files, Vacating space outset exchanges files later := by
  have begun : Begun (fun _ => True) (outset.note (.started (.dispose space))) :=
    reachable.begun_free.tail (.aside (.noted _ rfl))
  have ordinary := dialogue.ordinary reachable returned
  rcases dialogue.stands reachable (conducts_disposal begun opened) ordinary with
    ⟨now, request, next, ⟨files, file, listener, clears, current, requestEq⟩, rfl⟩ |
    ⟨_, _, ⟨rfl, files, now, clearing, empty, rfl⟩, rfl⟩
  · rw [requestEq]
    exact ⟨files, .waiting clears current⟩
  · have numbered := (Path.rewritten clearing.begun).numbered Numbered.initial
    have forgotten : now.after (ProgramSpace.unregister space) =
        { now with
          library := { now.library with registry := now.library.registry.erase space } } := by
      change { now with
        library := { now.library with
          registry := if now.library.registry.contains space then now.library.registry.erase space
            else now.library.registry.dropLast } } = _
      rw [if_pos (List.contains_iff_mem.mpr clearing.registered)]
    rw [forgotten]
    exact ⟨files, .ended clearing.clears empty clearing.registered
      numbered.registry_nodup.not_mem_erase⟩

theorem Vacating.clears (vacating : Vacating space outset exchanges files later) :
    ∃ now, Clears space
        ((outset.note (.started (.dispose space))).after (ProgramSpace.markDisposed space))
        exchanges files now ∧
      later.library.owned space = now.library.owned space ∧ later.announced = now.announced := by
  cases vacating with
  | waiting clears current => exact ⟨_, clears, rfl, World.announced_note _ rfl⟩
  | @ended now clears empty registered forgotten =>
    exact ⟨now, clears, rfl, now.announced_note rfl⟩

/-- What the space listed is removed, in the order from the end, or still listed. -/
theorem Vacating.remaining (vacating : Vacating space outset exchanges files later)
    (shrinks : ∀ exchange ∈ exchanges,
      (exchange.resumed.library.owned space).Sublist (exchange.library.owned space)) :
    (later.library.owned space ++ files.reverse).Sublist (outset.library.owned space) := by
  obtain ⟨now, clears, ownedEq, _⟩ := vacating.clears
  have within := clears.remaining shrinks
  rw [ownedEq, ← ProgramSpace.owned_markDisposed outset.library space space]
  exact within

theorem Vacating.exact_of_spared (vacating : Vacating space outset exchanges files later)
    (spared : ∀ exchange ∈ exchanges,
      exchange.resumed.library.owned space = exchange.library.owned space) :
    later.library.owned space ++ files.reverse = outset.library.owned space := by
  obtain ⟨now, clears, ownedEq, _⟩ := vacating.clears
  have exactly := clears.exact_of_spared spared
  rw [ownedEq, ← ProgramSpace.owned_markDisposed outset.library space space]
  exact exactly

/-- The removals of a disposal are announced in their order, whatever is announced in
between. -/
theorem Vacating.announced (vacating : Vacating space outset exchanges files later)
    (reachable : Reachable .free outset) (opened : outset.library.isDisposed space = false)
    (dialogue : Dialogue .free (.dispose space) outset exchanges later)
    (returned : ∀ exchange ∈ exchanges, ∃ value, exchange.reply = .returned value) :
    files.Sublist later.announced := by
  induction dialogue generalizing files with
  | start =>
    obtain ⟨now, clears, _, announcedEq⟩ := vacating.clears
    rw [announcedEq, World.announced_of_history clears.of_nil.history]
    exact List.sublist_append_right _ _
  | @resume exchanges made later frame reply before asked meanwhile answers permitted ih =>
    have returnedBefore := fun exchange member =>
      returned exchange (List.mem_append_left _ member)
    obtain ⟨now, clears, _, announcedEq⟩ := vacating.clears
    obtain ⟨earlier, more, there, rfl, clearsBefore, madeEq, stride⟩ := clears.of_concat
    obtain ⟨filesBefore, vacatingBefore⟩ := before.vacating reachable opened returnedBefore
    obtain ⟨reached, clearsReached, ownedEq, _⟩ := vacatingBefore.clears
    have sameFiles : filesBefore = earlier := by
      apply clearsReached.unique clearsBefore
      rw [← ownedEq, ← madeEq]
    have soFar := ih vacatingBefore returnedBefore
    rw [sameFiles] at soFar
    rw [announcedEq, World.announced_of_history stride.history]
    apply List.Sublist.append_right
    rw [World.announced_note _ rfl]
    exact soFar.trans (World.announced_prefix meanwhile.history).sublist

/-- Where listeners spare the space, nobody but the disposal announces the destruction
of its files. -/
theorem Vacating.announced_of_spared (vacating : Vacating space outset exchanges files later)
    (reachable : Reachable .free outset) (opened : outset.library.isDisposed space = false)
    (dialogue : Dialogue (.sparing space) (.dispose space) outset exchanges later)
    (returned : ∀ exchange ∈ exchanges, ∃ value, exchange.reply = .returned value) :
    later.announced.filter (· ∈ outset.library.owned space) = files := by
  have free := dialogue.weaken Rules.free_of_sparing
  have conserved := fun file => Begun.conserved (free.reachable reachable).begun_free file
  have ownedEq := vacating.exact_of_spared (dialogue.spares reachable opened)
  have nodup : later.announced.Nodup := by
    apply List.nodup_iff_count_le_one.mpr
    intro file
    rw [World.count_announced]
    exact (conserved file).destructions_le_one
  have own : files.filter (· ∈ outset.library.owned space) = files := by
    apply List.filter_eq_self.mpr
    intro file member
    rw [← ownedEq]
    simp [member]
  have inOrder : files.Sublist (later.announced.filter (· ∈ outset.library.owned space)) := by
    rw [← own]
    exact (vacating.announced reachable opened free returned).filter _
  have onlyOwn : later.announced.filter (· ∈ outset.library.owned space) ⊆ files := by
    intro file member
    obtain ⟨isAnnounced, listedBefore⟩ := List.mem_filter.mp member
    have gone : later.library.Gone file := by
      apply Classical.byContradiction
      intro kept
      have none := (conserved file).kept kept
      rw [← World.count_announced] at none
      exact List.count_eq_zero.mp none isAnnounced
    have listed : file ∈ later.library.owned space ++ files.reverse := by
      rw [ownedEq]
      exact of_decide_eq_true listedBefore
    rcases List.mem_append.mp listed with still | removed
    · exact absurd ⟨space, still⟩ gone.2
    · exact List.mem_reverse.mp removed
  have noMore := (List.subperm_of_subset (nodup.filter _) onlyOwn).length_le
  exact (inOrder.eq_of_length_le noMore).symm

end Vacating

/-- The disposal of an open space, with listeners that return whatever else they do: it
is over after finitely many calls, and at each of them it has removed files that the
space listed at the outset, from the end on and none twice. When it ends the space
lists nothing, and between the calls and at the end it takes nothing but the space out
of the registry. As long as listeners start nothing on the space but its disposal, the
destructions of its files are announced in the reverse order of their creation, without
exception. From its start on, disposing again changes nothing. -/
theorem Reachable.disposal_vacates {outset later : Moment} {space : SpaceId}
    {exchanges : List Exchange} (reachable : Reachable .free outset)
    (opened : outset.library.isDisposed space = false)
    (dialogue : Dialogue .free (.dispose space) outset exchanges later)
    (returned : ∀ exchange ∈ exchanges, ∃ value, exchange.reply = .returned value) :
    (∃ files, Vacating space outset exchanges files later ∧
      files.reverse.Sublist (outset.library.owned space) ∧
      files.Pairwise (fun earlier later => later.index < earlier.index) ∧
      (Dialogue (.sparing space) (.dispose space) outset exchanges later →
        later.library.owned space ++ files.reverse = outset.library.owned space ∧
        later.announced.filter (· ∈ outset.library.owned space) = files)) ∧
    (∀ answers : Nat → Exchange, ∃ count, ∀ moment,
      ¬Dialogue .free (.dispose space) outset ((List.range count).map answers) moment) ∧
    ∀ after, Meanwhile .free [] later after →
      after.start (.dispose space) =
        { after with
          history := after.history ++
            [.started (.dispose space), .finished (.dispose space) (.ok .nothing)] } := by
  refine ⟨?_, Dialogue.finite .free (.dispose space) outset, ?_⟩
  · obtain ⟨files, vacating⟩ := dialogue.vacating reachable opened returned
    have fromEnd : files.reverse.Sublist (outset.library.owned space) :=
      (List.sublist_append_right _ _).trans
        (vacating.remaining (dialogue.shrinks reachable opened))
    have aged := (reachable.numbered.aged space).sublist fromEnd
    refine ⟨files, vacating, fromEnd, List.pairwise_reverse.mp aged, fun sparing => ?_⟩
    exact ⟨vacating.exact_of_spared (sparing.spares reachable opened),
      vacating.announced_of_spared reachable opened sparing returned⟩
  · intro after meanwhile
    have closed := dialogue.closed reachable opened
    have rewritten := meanwhile.rewritten (dialogue.reachable reachable)
    have closedAfter := (rewritten.dwindles.closed space closed).1
    exact Moment.start_dispose_of_disposed closedAfter.isDisposed

/-- Three object files in one space and a client that is told when one is destroyed. -/
def Moment.crowded : Moment :=
  Moment.furnished.start (.addObjectFile { index := 0 } "c.out" none)

/-- The listener that is told of the third file disposes the space again and removes the
first file, of which it is told too; the disposal goes on with the second. Where the
listener only disposes again, the files are announced from the last to the first. -/
theorem disposal_vacates_reentered :
    (∃ exchanges later, Dialogue .free (.dispose { index := 0 }) Moment.crowded exchanges later ∧
      exchanges.length = 2 ∧
      later.announced = [{ index := 2 }, { index := 0 }, { index := 1 }] ∧
      (∃ files, Vacating { index := 0 } Moment.crowded exchanges files later ∧
        files.reverse.Sublist [{ index := 0 }, { index := 1 }, { index := 2 }]) ∧
      (later.start (.dispose { index := 0 })).library = later.library) ∧
    ∃ exchanges later,
      Dialogue (.sparing { index := 0 }) (.dispose { index := 0 }) Moment.crowded exchanges later ∧
      later.announced.filter (· ∈ Moment.crowded.library.owned { index := 0 }) =
        [{ index := 2 }, { index := 1 }, { index := 0 }] := by
  have may : ∀ {moment : Moment} {happening : Happening}, Rules.free moment happening :=
    fun _ _ => trivial
  have reachable : Reachable .free Moment.crowded :=
    .start (.addObjectFile { index := 0 } "c.out" none) reachable_furnished trivial may
  constructor
  · have begun : Dialogue .free (.dispose { index := 0 }) Moment.crowded [] _ := .start trivial may
    have told := begun.resume (.returned .absent) rfl
      (.resume (.returned .absent)
        (.start (.removeObjectFile { index := 0 } { index := 0 })
          (.start (.dispose { index := 0 }) .refl trivial may) trivial may)
        rfl List.suffix_rfl may)
      rfl may
    have vacated := told.resume (.returned .absent) rfl .refl rfl may
    obtain ⟨⟨files, vacating, fromEnd, _, _⟩, _, again⟩ :=
      reachable.disposal_vacates rfl vacated (by
        intro exchange member
        rcases List.mem_append.mp member with earlier | last
        · rw [List.mem_singleton.mp earlier]
          exact ⟨_, rfl⟩
        · rw [List.mem_singleton.mp last]
          exact ⟨_, rfl⟩)
    exact ⟨_, _, vacated, rfl, rfl, ⟨files, vacating, fromEnd⟩,
      congrArg (·.library) (again _ .refl)⟩
  · have spare : ∀ {moment : Moment} {happening : Happening},
        (∀ operation, happening = .started operation → operation = .dispose { index := 0 }) →
        Rules.sparing { index := 0 } moment happening := fun only operation started _ =>
      only operation started
    have disposes : ∀ {moment : Moment},
        Rules.sparing { index := 0 } moment (.started (.dispose { index := 0 })) :=
      spare fun _ started => by cases started; rfl
    have answers : ∀ {moment : Moment} {operation : Operation} {request : Call} {reply : Reply},
        Rules.sparing { index := 0 } moment (.answered operation request reply) :=
      spare fun _ started => by cases started
    have begun : Dialogue (.sparing { index := 0 }) (.dispose { index := 0 }) Moment.crowded [] _ :=
      .start trivial disposes
    have third := begun.resume (.returned .absent) rfl
      (.start (.dispose { index := 0 }) .refl trivial disposes) rfl answers
    have second := third.resume (.returned .absent) rfl
      (.start (.dispose { index := 0 }) .refl trivial disposes) rfl answers
    have vacated := second.resume (.returned .absent) rfl .refl rfl answers
    obtain ⟨⟨files, _, _, _, spared⟩, _, _⟩ :=
      reachable.disposal_vacates rfl (vacated.weaken Rules.free_of_sparing) (by
        intro exchange member
        simp only [List.nil_append, List.cons_append, List.mem_cons, List.not_mem_nil, or_false]
          at member
        rcases member with rfl | rfl | rfl <;> exact ⟨_, rfl⟩)
    obtain ⟨ownedEq, announcedEq⟩ := spared vacated
    have filesEq : files.reverse = [{ index := 0 }, { index := 1 }, { index := 2 }] := ownedEq
    rw [← List.reverse_reverse files, filesEq] at announcedEq
    exact ⟨_, _, vacated, announcedEq⟩

end ReaderTrace
