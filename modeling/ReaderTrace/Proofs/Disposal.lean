import ReaderTrace.Proofs.Grounds
import ReaderTrace.Proofs.Representation
import ReaderTrace.Proofs.Trail

/-!
Disposals that end and disposals that are broken off.

A program space is marked as disposed before its object files are removed, and a
listener that throws breaks the disposal off. The space keeps the files that are
left and its place in the registry, and since it counts as disposed already, no
later disposal takes them away.
-/

namespace ReaderTrace

open Routine

/-! ### Spaces whose disposal was begun -/

def Operation.disposed? : Operation → Option SpaceId
  | .dispose space => some space
  | _ => none

/-- The spaces whose disposal waits for the reply of a listener. -/
def disposing (pending : List Frame) : List SpaceId :=
  pending.filterMap fun frame => frame.operation.disposed?

def Happening.brokenOff? : Happening → Option SpaceId
  | .finished operation (.error _) => operation.disposed?
  | _ => none

/-- The spaces of which a disposal ended with an error. -/
def World.brokenOff (world : World) : List SpaceId :=
  world.history.filterMap Happening.brokenOff?

theorem Operation.disposed?_eq_some_iff {operation : Operation} {space : SpaceId} :
    operation.disposed? = some space ↔ operation = .dispose space := by
  cases operation <;> simp [disposed?]

theorem mem_disposing_iff {pending : List Frame} {space : SpaceId} :
    space ∈ disposing pending ↔ ∃ frame ∈ pending, frame.operation = .dispose space := by
  simp [disposing, Operation.disposed?_eq_some_iff]

theorem disposing_cons_of_none {frame : Frame} {pending : List Frame}
    (other : frame.operation.disposed? = none) :
    disposing (frame :: pending) = disposing pending :=
  List.filterMap_cons_none other

theorem disposing_cons_of_some {frame : Frame} {pending : List Frame} {space : SpaceId}
    (disposed : frame.operation.disposed? = some space) :
    disposing (frame :: pending) = space :: disposing pending :=
  List.filterMap_cons_some disposed

namespace World

theorem mem_brokenOff_iff {world : World} {space : SpaceId} :
    space ∈ world.brokenOff ↔
      ∃ raised, Happening.finished (.dispose space) (.error raised) ∈ world.history := by
  unfold brokenOff
  rw [List.mem_filterMap]
  constructor
  · intro ⟨happening, happened, spaceEq⟩
    cases happening with
    | finished operation outcome =>
      cases outcome with
      | ok result => cases spaceEq
      | error raised =>
        rw [← Operation.disposed?_eq_some_iff.mp spaceEq]
        exact ⟨raised, happened⟩
    | _ => cases spaceEq
  · intro ⟨raised, happened⟩
    exact ⟨_, happened, rfl⟩

theorem brokenOff_note (world : World) (happening : Happening) :
    (world.note happening).brokenOff = world.brokenOff ++ happening.brokenOff?.toList := by
  change (world.history ++ [happening]).filterMap Happening.brokenOff? = _
  rw [List.filterMap_append]
  unfold brokenOff
  cases found : happening.brokenOff? <;> simp [found]

theorem brokenOff_note_of_none (world : World) {happening : Happening}
    (other : happening.brokenOff? = none) :
    (world.note happening).brokenOff = world.brokenOff := by
  rw [brokenOff_note, other]
  exact List.append_nil _

end World

theorem Stretch.brokenOff {γ : Type} {view : Library → γ} {world now : World}
    (stretch : Stretch view world now) : now.brokenOff = world.brokenOff := by
  obtain ⟨milestones, historyEq⟩ := stretch.history
  have silent : (milestones.map Happening.reached).filterMap Happening.brokenOff? = [] := by
    simp [List.filterMap_map, Function.comp_def, Happening.brokenOff?]
  unfold World.brokenOff
  rw [historyEq, List.filterMap_append, silent, List.append_nil]

/-! ### Spaces that are created and disposed of -/

namespace ProgramSpace

theorem closed_create (library : Library) (name : Option String) (space : SpaceId) :
    ((create name).apply library).2.Closed space ↔ library.Closed space := by
  have flagsEq : ((create name).apply library).2.grounds.2 = library.grounds.2 ++ [false] :=
    List.map_append
  rw [Library.closed_iff_flag, Library.closed_iff_flag, flagsEq, List.getElem?_append]
  split
  · exact Iff.rfl
  · next beyond =>
    rw [List.getElem?_eq_none (Nat.le_of_not_lt beyond)]
    cases space.index - library.grounds.2.length <;> simp

theorem closed_markDisposed_of_ne (library : Library) {space other : SpaceId}
    (different : other ≠ space) :
    ((markDisposed space).apply library).2.Closed other ↔ library.Closed other := by
  have elsewhere : space.index ≠ other.index := by
    intro indexEq
    exact different (by cases other; cases space; simp_all)
  change (library.modifySpace space _).Closed other ↔ _
  unfold Library.Closed Library.space? Library.modifySpace
  rw [List.getElem?_modify_ne _ _ elsewhere]

end ProgramSpace

/-! ### The life of a space -/

/-- The spaces that are disposed but still registered are those whose disposal
is under way and those whose disposal was broken off. -/
structure Disposals (library : Library) (underway broken : List SpaceId) : Prop where
  distinct : library.registry.Nodup
  known : ∀ space ∈ library.registry, space.index < library.spaces.length
  once : underway.Nodup
  apart : ∀ space ∈ underway, space ∉ broken
  held : ∀ space, space ∈ underway ∨ space ∈ broken →
    library.Closed space ∧ space ∈ library.registry
  covered : ∀ space, library.Closed space → space ∈ library.registry →
    space ∈ underway ∨ space ∈ broken

namespace Disposals

variable {library after : Library} {underway broken : List SpaceId} {space : SpaceId}

theorem initial : Disposals .initial [] [] where
  distinct := List.nodup_nil
  known := by intro space member; cases member
  once := List.nodup_nil
  apart := by intro space member; cases member
  held := by intro space member; rcases member with member | member <;> cases member
  covered := by intro space _ member; cases member

theorem congr (disposals : Disposals library underway broken)
    (same : after.grounds = library.grounds) : Disposals after underway broken := by
  have registryEq := Library.registry_of_grounds same
  have closedIff := Library.closed_of_grounds same
  have lengthEq : after.spaces.length = library.spaces.length := by
    have flagsEq := congrArg (fun grounds => grounds.2.length) same
    simpa [Library.grounds] using flagsEq
  constructor
  · rw [registryEq]
    exact disposals.distinct
  · rw [registryEq, lengthEq]
    exact disposals.known
  · exact disposals.once
  · exact disposals.apart
  · intro space member
    rw [closedIff, registryEq]
    exact disposals.held space member
  · intro space closed member
    rw [closedIff] at closed
    rw [registryEq] at member
    exact disposals.covered space closed member

theorem create (disposals : Disposals library underway broken) (name : Option String) :
    Disposals ((ProgramSpace.create name).apply library).2 underway broken := by
  have registryEq : ((ProgramSpace.create name).apply library).2.registry =
      library.registry ++ [{ index := library.spaces.length }] := rfl
  have lengthEq : ((ProgramSpace.create name).apply library).2.spaces.length =
      library.spaces.length + 1 := List.length_append
  have closedIff := ProgramSpace.closed_create library name
  have fresh : ∀ other ∈ library.registry, other ≠ { index := library.spaces.length } := by
    intro other member same
    have bound := disposals.known other member
    rw [same] at bound
    exact Nat.lt_irrefl _ bound
  constructor
  · rw [registryEq]
    apply List.nodup_append.mpr
    refine ⟨disposals.distinct, by simp, ?_⟩
    intro other member new isNew
    rw [List.mem_singleton.mp isNew]
    exact fresh other member
  · intro other member
    rw [registryEq] at member
    rw [lengthEq]
    rcases List.mem_append.mp member with old | new
    · exact Nat.lt_succ_of_lt (disposals.known other old)
    · rw [List.mem_singleton.mp new]
      exact Nat.lt_succ_self _
  · exact disposals.once
  · exact disposals.apart
  · intro other member
    rw [closedIff, registryEq]
    have held := disposals.held other member
    exact ⟨held.1, List.mem_append_left _ held.2⟩
  · intro other closed member
    rw [closedIff] at closed
    rw [registryEq] at member
    rcases List.mem_append.mp member with old | new
    · exact disposals.covered other closed old
    · obtain ⟨record, found, _⟩ := closed
      have bound : other.index < library.spaces.length := (List.getElem?_eq_some_iff.mp found).1
      rw [List.mem_singleton.mp new] at bound
      exact absurd bound (Nat.lt_irrefl _)

/-- The disposal of an open space begins. -/
theorem enter (disposals : Disposals library underway broken)
    (opened : library.isDisposed space = false) (registered : space ∈ library.registry) :
    Disposals ((ProgramSpace.markDisposed space).apply library).2 (space :: underway) broken := by
  have notHeld : ¬(space ∈ underway ∨ space ∈ broken) := by
    intro member
    have closed := (disposals.held space member).1
    rw [closed.isDisposed] at opened
    cases opened
  have closedIff : ∀ other, ((ProgramSpace.markDisposed space).apply library).2.Closed other ↔
      other = space ∨ library.Closed other := by
    intro other
    by_cases same : other = space
    · subst same
      exact iff_of_true (ProgramSpace.closed_markDisposed opened) (Or.inl rfl)
    · rw [ProgramSpace.closed_markDisposed_of_ne library same, or_iff_right same]
  constructor
  · exact disposals.distinct
  · intro other member
    exact Nat.lt_of_lt_of_eq (disposals.known other member) (List.length_modify _ _ _).symm
  · exact List.nodup_cons.mpr ⟨fun member => notHeld (Or.inl member), disposals.once⟩
  · intro other member broke
    rcases List.mem_cons.mp member with same | earlier
    · exact notHeld (Or.inr (same ▸ broke))
    · exact disposals.apart other earlier broke
  · intro other member
    rw [closedIff]
    rcases member with member | broke
    · rcases List.mem_cons.mp member with same | earlier
      · exact ⟨Or.inl same, same ▸ registered⟩
      · have held := disposals.held other (Or.inl earlier)
        exact ⟨Or.inr held.1, held.2⟩
    · have held := disposals.held other (Or.inr broke)
      exact ⟨Or.inr held.1, held.2⟩
  · intro other closed member
    rcases (closedIff other).mp closed with same | closedBefore
    · exact Or.inl (List.mem_cons.mpr (Or.inl same))
    · rcases disposals.covered other closedBefore member with earlier | broke
      · exact Or.inl (List.mem_cons_of_mem _ earlier)
      · exact Or.inr broke

/-- The disposal ends and the space is taken out of the registry. -/
theorem leave (disposals : Disposals library (space :: underway) broken) :
    Disposals ((ProgramSpace.unregister space).apply library).2 underway broken := by
  have registered := (disposals.held space (Or.inl (List.mem_cons_self ..))).2
  have registryEq : ((ProgramSpace.unregister space).apply library).2.registry =
      library.registry.erase space := by
    change (if library.registry.contains space then library.registry.erase space
      else library.registry.dropLast) = _
    rw [if_pos (List.contains_iff_mem.mpr registered)]
  have once := List.nodup_cons.mp disposals.once
  have notBroken := disposals.apart space (List.mem_cons_self ..)
  constructor
  · rw [registryEq]
    exact disposals.distinct.erase space
  · intro other member
    rw [registryEq] at member
    exact disposals.known other (List.mem_of_mem_erase member)
  · exact once.2
  · intro other member
    exact disposals.apart other (List.mem_cons_of_mem _ member)
  · intro other member
    have different : other ≠ space := by
      rintro rfl
      rcases member with earlier | broke
      · exact once.1 earlier
      · exact notBroken broke
    have held := disposals.held other (member.imp_left (List.mem_cons_of_mem _))
    constructor
    · exact held.1
    · rw [registryEq]
      exact (List.mem_erase_of_ne different).mpr held.2
  · intro other closed member
    rw [registryEq] at member
    obtain ⟨different, present⟩ := disposals.distinct.mem_erase_iff.mp member
    rcases disposals.covered other closed present with earlier | broke
    · exact Or.inl ((List.mem_cons.mp earlier).resolve_left different)
    · exact Or.inr broke

/-- The disposal ends with an error. -/
theorem breakOff (disposals : Disposals library (space :: underway) broken) :
    Disposals library underway (broken ++ [space]) := by
  have once := List.nodup_cons.mp disposals.once
  have regrouped : ∀ other, other ∈ underway ∨ other ∈ broken ++ [space] ↔
      other ∈ space :: underway ∨ other ∈ broken := by
    intro other
    grind
  constructor
  · exact disposals.distinct
  · exact disposals.known
  · exact once.2
  · intro other member broke
    rcases List.mem_append.mp broke with earlier | last
    · exact disposals.apart other (List.mem_cons_of_mem _ member) earlier
    · exact once.1 (List.mem_singleton.mp last ▸ member)
  · intro other member
    exact disposals.held other ((regrouped other).mp member)
  · intro other closed member
    exact (regrouped other).mpr (disposals.covered other closed member)

end Disposals

/-! ### Every run -/

/-- What is left of a disposal after the removals. -/
def ProgramSpace.closing (space : SpaceId) : Unit → Routine Result := fun _ => do
  unregister space
  pure .nothing

/-- What an operation may still do when its call is answered. -/
def Operation.Resumes (operation : Operation) (routine : Routine Result) : Prop :=
  match operation.disposed? with
  | some space => ∃ removals : Routine Unit, removals.Steady Library.grounds ∧
      routine = removals.bind (ProgramSpace.closing space)
  | none => routine.Steady Library.grounds

theorem Operation.Resumes.of_steady {operation : Operation} {routine : Routine Result}
    (other : operation.disposed? = none) (steady : routine.Steady Library.grounds) :
    operation.Resumes routine := by
  unfold Resumes
  rw [other]
  exact steady

theorem Operation.Resumes.steady {operation : Operation} {routine : Routine Result}
    (resumes : operation.Resumes routine) (other : operation.disposed? = none) :
    routine.Steady Library.grounds := by
  unfold Resumes at resumes
  rw [other] at resumes
  exact resumes

theorem Operation.Resumes.removals {operation : Operation} {routine : Routine Result}
    {space : SpaceId} (resumes : operation.Resumes routine)
    (disposed : operation.disposed? = some space) :
    ∃ removals : Routine Unit, removals.Steady Library.grounds ∧
      routine = removals.bind (ProgramSpace.closing space) := by
  unfold Resumes at resumes
  rw [disposed] at resumes
  exact resumes

structure Orderly (moment : Moment) : Prop where
  resumes : ∀ frame ∈ moment.pending, ∀ reply, frame.operation.Resumes (frame.next reply)
  disposals : Disposals moment.library (disposing moment.pending) moment.brokenOff

namespace Moment

variable {moment : Moment} {space : SpaceId}

/-- A disposal of a space that counts as disposed does nothing. -/
theorem start_dispose_of_disposed (disposed : moment.library.isDisposed space = true) :
    moment.start (.dispose space) =
      { moment with
        history := moment.history ++
          [.started (.dispose space), .finished (.dispose space) (.ok .nothing)] } := by
  change proceed (.dispose space) moment.pending
    (Routine.bind (if moment.library.isDisposed space then .done (.ok ()) else _) _) _ = _
  rw [if_pos disposed]
  have noted : (moment.history ++ [.started (.dispose space)]) ++
      [.finished (.dispose space) (.ok .nothing)] = moment.history ++
        [.started (.dispose space), .finished (.dispose space) (.ok .nothing)] :=
    List.append_assoc ..
  rw [← noted]
  rfl

theorem start_dispose_of_open (opened : moment.library.isDisposed space = false) :
    moment.start (.dispose space) =
      proceed (.dispose space) moment.pending
        ((ProgramSpace.removeAll space (moment.library.owned space).length).bind
          (ProgramSpace.closing space))
        ((moment.toWorld.note (.started (.dispose space))).after
          (ProgramSpace.markDisposed space)) := by
  change proceed (.dispose space) moment.pending
    (Routine.bind (if moment.library.isDisposed space then .done (.ok ()) else
      (do
        ProgramSpace.markDisposed space
        ProgramSpace.removeAll space (moment.library.owned space).length
        ProgramSpace.unregister space : Routine Unit)) fun _ => .done (.ok .nothing)) _ = _
  rw [if_neg (by simp [opened])]
  have regrouped := Routine.bind_assoc
    (ProgramSpace.removeAll space (moment.library.owned space).length)
    (fun _ => Routine.edit (ProgramSpace.unregister space))
    (fun _ => (.done (.ok .nothing) : Routine Result))
  exact congrArg (fun routine => proceed (.dispose space) moment.pending routine
    ((moment.toWorld.note (.started (.dispose space))).after (ProgramSpace.markDisposed space)))
    regrouped

end Moment

namespace Orderly

theorem initial : Orderly .initial where
  resumes := by intro frame member; cases member
  disposals := Disposals.initial

variable {world : World} {pending : List Frame} {operation : Operation} {space : SpaceId}

/-- An operation that is not a disposal is carried on. -/
theorem proceed {routine : Routine Result} (other : operation.disposed? = none)
    (keeps : routine.Keeps Library.grounds world.library)
    (resumes : ∀ frame ∈ pending, ∀ reply, frame.operation.Resumes (frame.next reply))
    (disposals : Disposals world.library (disposing pending) world.brokenOff) :
    Orderly (Moment.proceed operation pending routine world) := by
  have carried := keeps.carried operation pending fun result => .done (.ok result)
  rw [Routine.bind_done] at carried
  generalize Moment.proceed operation pending routine world = moment at carried ⊢
  cases carried with
  | @waiting now request next stretch steady =>
    have still := disposals.congr stretch.same
    rw [← stretch.brokenOff] at still
    constructor
    · intro frame member
      rcases List.mem_cons.mp member with rfl | earlier
      · intro reply
        apply Operation.Resumes.of_steady other
        change Steady _ ((next reply).bind fun result => .done (.ok result))
        rw [Routine.bind_done]
        exact steady reply
      · exact resumes frame earlier
    · change Disposals now.library (disposing (_ :: pending)) (now.note _).brokenOff
      rw [World.brokenOff_note_of_none now rfl, disposing_cons_of_none other]
      exact still
  | @ended now outcome stretch =>
    have still := disposals.congr stretch.same
    rw [← stretch.brokenOff] at still
    have unrelated : (Happening.finished operation outcome).brokenOff? = none := by
      cases outcome with
      | ok result => rfl
      | error raised => exact other
    have ended : (Routine.done outcome).bind (fun result => .done (.ok result)) = .done outcome :=
      Routine.bind_done _
    rw [ended]
    constructor
    · exact resumes
    · change Disposals now.library (disposing pending) (now.note _).brokenOff
      rw [World.brokenOff_note_of_none now unrelated]
      exact still

/-- A disposal is carried on, from a state in which it is under way. -/
theorem proceed_removals {removals : Routine Unit}
    (keeps : removals.Keeps Library.grounds world.library)
    (resumes : ∀ frame ∈ pending, ∀ reply, frame.operation.Resumes (frame.next reply))
    (disposals : Disposals world.library (space :: disposing pending) world.brokenOff) :
    Orderly (Moment.proceed (.dispose space) pending
      (removals.bind (ProgramSpace.closing space)) world) := by
  have carried := keeps.carried (.dispose space) pending (ProgramSpace.closing space)
  generalize Moment.proceed (.dispose space) pending
    (removals.bind (ProgramSpace.closing space)) world = moment at carried ⊢
  cases carried with
  | @waiting now request next stretch steady =>
    have still := disposals.congr stretch.same
    rw [← stretch.brokenOff] at still
    constructor
    · intro frame member
      rcases List.mem_cons.mp member with rfl | earlier
      · exact fun reply => ⟨_, steady reply, rfl⟩
      · exact resumes frame earlier
    · change Disposals now.library (space :: disposing pending) (now.note _).brokenOff
      rw [World.brokenOff_note_of_none now rfl]
      exact still
  | @ended now outcome stretch =>
    have still := disposals.congr stretch.same
    rw [← stretch.brokenOff] at still
    cases outcome with
    | error raised =>
      constructor
      · exact resumes
      · change Disposals now.library (disposing pending) (now.note _).brokenOff
        rw [World.brokenOff_note]
        exact still.breakOff
    | ok _ =>
      constructor
      · exact resumes
      · change Disposals ((ProgramSpace.unregister space).apply now.library).2 (disposing pending)
          ((now.after (ProgramSpace.unregister space)).note _).brokenOff
        rw [World.brokenOff_note_of_none _ rfl]
        exact still.leave

theorem created (name : Option String)
    (resumes : ∀ frame ∈ pending, ∀ reply, frame.operation.Resumes (frame.next reply))
    (disposals : Disposals world.library (disposing pending) world.brokenOff) :
    Orderly (Moment.proceed (.createSpace name) pending
      (Operation.routine (.createSpace name)) world) := by
  constructor
  · exact resumes
  · change Disposals ((ProgramSpace.create name).apply world.library).2 (disposing pending)
      ((world.after (ProgramSpace.create name)).note _).brokenOff
    rw [World.brokenOff_note_of_none _ rfl]
    exact disposals.create name

theorem start {moment : Moment} (orderly : Orderly moment) (sound : Sound moment.library)
    (operation : Operation) : Orderly (moment.start operation) := by
  have noted : Disposals (moment.toWorld.note (.started operation)).library
      (disposing moment.pending) (moment.toWorld.note (.started operation)).brokenOff := by
    rw [World.brokenOff_note_of_none _ rfl]
    exact orderly.disposals
  by_cases settles : operation.Settles
  · cases operation with
    | createSpace name => exact created name orderly.resumes noted
    | dispose space =>
      cases disposed : moment.library.isDisposed space with
      | true =>
        rw [Moment.start_dispose_of_disposed disposed]
        have unbroken : ([.started (.dispose space), .finished (.dispose space) (.ok .nothing)] :
            List Happening).filterMap Happening.brokenOff? = [] := rfl
        constructor
        · exact orderly.resumes
        · change Disposals moment.library (disposing moment.pending)
            ((moment.history ++ _).filterMap Happening.brokenOff?)
          rw [List.filterMap_append, unbroken, List.append_nil]
          exact orderly.disposals
      | false =>
        rw [Moment.start_dispose_of_open disposed]
        have entered := noted.enter disposed (sound.registered.opened space disposed)
        exact proceed_removals ((reworks_removeAll trivial _).rewrites.steady _) orderly.resumes entered
    | _ => exact absurd settles not_false
  · have other : operation.disposed? = none := by
      cases operation <;> first | rfl | exact absurd trivial settles
    exact proceed other (Operation.steady settles _) orderly.resumes noted

theorem resume {moment : Moment} {frame : Frame} {rest : List Frame} (orderly : Orderly moment)
    (waiting : moment.pending = frame :: rest) (reply : Reply) :
    Orderly (moment.resume frame rest reply) := by
  have resumes := orderly.resumes
  have disposals := orderly.disposals
  have answered :
      (moment.toWorld.note (.answered frame.operation frame.request reply)).brokenOff =
        moment.brokenOff := World.brokenOff_note_of_none _ rfl
  rw [waiting] at resumes disposals
  rw [← answered] at disposals
  have outer : ∀ other ∈ rest, ∀ reply, other.operation.Resumes (other.next reply) :=
    fun other member => resumes other (List.mem_cons_of_mem _ member)
  have innermost := resumes frame (List.mem_cons_self ..) reply
  cases disposed : frame.operation.disposed? with
  | none =>
    rw [disposing_cons_of_none disposed] at disposals
    exact proceed disposed (innermost.steady disposed _) outer disposals
  | some space =>
    rw [disposing_cons_of_some disposed] at disposals
    obtain ⟨removals, steady, nextEq⟩ := innermost.removals disposed
    have operationEq := Operation.disposed?_eq_some_iff.mp disposed
    unfold Moment.resume
    rw [operationEq] at disposals ⊢
    rw [nextEq]
    exact proceed_removals (steady _) outer disposals

end Orderly

theorem Reachable.orderly {moment : Moment} (reachable : Reachable .free moment) :
    Orderly moment := by
  induction reachable with
  | initial => exact Orderly.initial
  | start operation before _ _ ih => exact ih.start before.begun_free.sound operation
  | resume reply _ waiting _ ih => exact ih.resume waiting reply

/-! ### The statement about runs -/

/-- A disposed space of which no disposal is in progress owns nothing and is
unregistered exactly if none of its disposals ended with an error. Disposing of
it again changes nothing, and if a disposal did end with an error the space
stays registered whatever happens later. -/
theorem Reachable.disposed_empty_iff_unbroken {moment : Moment}
    (reachable : Reachable .free moment) {space : SpaceId}
    (disposed : moment.library.Closed space)
    (idle : ∀ frame ∈ moment.pending, frame.operation ≠ .dispose space) :
    (moment.library.owned space = [] ∧ space ∉ moment.library.registry ↔
      ∀ raised, Happening.finished (.dispose space) (.error raised) ∉ moment.history) ∧
    moment.start (.dispose space) =
      { moment with
        history := moment.history ++
          [.started (.dispose space), .finished (.dispose space) (.ok .nothing)] } ∧
    ∀ later, Meanwhile .free [] moment later →
      ∀ raised, Happening.finished (.dispose space) (.error raised) ∈ moment.history →
        space ∈ later.library.registry := by
  have sound := reachable.begun_free.sound
  have disposals := reachable.orderly.disposals
  have notUnderway : space ∉ disposing moment.pending := by
    intro member
    obtain ⟨frame, waits, operationEq⟩ := mem_disposing_iff.mp member
    exact idle frame waits operationEq
  have emptyOfMissing : space ∉ moment.library.registry → moment.library.owned space = [] := by
    intro missing
    apply List.eq_nil_iff_forall_not_mem.mpr
    intro file member
    exact missing (sound.registered.owner space file member)
  constructor
  · constructor
    · intro ⟨_, missing⟩ raised happened
      have broke := World.mem_brokenOff_iff.mpr ⟨raised, happened⟩
      exact missing (disposals.held space (Or.inr broke)).2
    · intro never
      have missing : space ∉ moment.library.registry := by
        intro registered
        rcases disposals.covered space disposed registered with underway | broke
        · exact notUnderway underway
        · obtain ⟨raised, happened⟩ := World.mem_brokenOff_iff.mp broke
          exact never raised happened
      exact ⟨emptyOfMissing missing, missing⟩
  · constructor
    · exact Moment.start_dispose_of_disposed disposed.isDisposed
    · intro later meanwhile raised happened
      have still := meanwhile.history.subset happened
      have broke := World.mem_brokenOff_iff.mpr ⟨raised, still⟩
      exact ((meanwhile.reachable reachable).orderly.disposals.held space (Or.inr broke)).2

/-- A space with two object files is about to be disposed, and a listener will
be told. -/
def Moment.furnished : Moment :=
  let added := ((Moment.initial.start (.createSpace none)).start
    (.addObjectFile { index := 0 } "a.out" none)).start
      (.addObjectFile { index := 0 } "b.out" none)
  added.start (.subscribe destroyedEvent { index := 0 })

theorem reachable_furnished : Reachable .free Moment.furnished := by
  have may : ∀ {moment : Moment} {operation : Operation},
      Rules.free moment (.started operation) := fun _ _ => trivial
  have created := Reachable.start (.createSpace none) .initial trivial may
  have first := Reachable.start (.addObjectFile { index := 0 } "a.out" none) created trivial may
  have second := Reachable.start (.addObjectFile { index := 0 } "b.out" none) first trivial may
  exact Reachable.start (.subscribe destroyedEvent { index := 0 }) second trivial may

/-- The listener has returned both times. -/
def Moment.vacated : Moment :=
  ((Moment.furnished.start (.dispose { index := 0 })).answer (.returned .absent)).answer
    (.returned .absent)

theorem disposed_empty_iff_unbroken_vacated :
    Moment.vacated.library.Closed { index := 0 } ∧ Moment.vacated.pending = [] ∧
    (∀ raised, Happening.finished (.dispose { index := 0 }) (.error raised) ∉
      Moment.vacated.history) ∧
    (Moment.vacated.start (.dispose { index := 0 })).library = Moment.vacated.library := by
  have may : ∀ {moment : Moment} {happening : Happening}, Rules.free moment happening :=
    fun _ _ => trivial
  have begun : Reachable .free _ :=
    .start (.dispose { index := 0 }) reachable_furnished trivial may
  have told : Reachable .free _ := .resume (.returned .absent) begun rfl may
  have vacated : Reachable .free Moment.vacated := .resume (.returned .absent) told rfl may
  have closed : Moment.vacated.library.Closed { index := 0 } := ⟨_, rfl, rfl⟩
  have idle : ∀ frame ∈ Moment.vacated.pending, frame.operation ≠ .dispose { index := 0 } := by
    intro frame member
    cases member
  have facts := vacated.disposed_empty_iff_unbroken closed idle
  have empty : Moment.vacated.library.owned { index := 0 } = [] := rfl
  have missing : ({ index := 0 } : SpaceId) ∉ Moment.vacated.library.registry := by decide
  exact ⟨closed, rfl, facts.1.mp ⟨empty, missing⟩, by rw [facts.2.1]⟩

/-- The listener has thrown when it was told of the first removal. -/
def Moment.abandoned : Moment :=
  (Moment.furnished.start (.dispose { index := 0 })).answer (.thrown .null)

/-- The disposed space has kept an object file and is registered, and it stays
so when it is disposed of again. -/
theorem abandoned_registered :
    Reachable .free Moment.abandoned ∧ Moment.abandoned.pending = [] ∧
    Moment.abandoned.library.Closed { index := 0 } ∧
    Moment.abandoned.library.owned { index := 0 } = [{ index := 0 }] ∧
    { index := 0 } ∈ Moment.abandoned.library.registry ∧
    (Moment.abandoned.start (.dispose { index := 0 })).pending = [] ∧
    (Moment.abandoned.start (.dispose { index := 0 })).library.owned { index := 0 } =
      [{ index := 0 }] ∧
    { index := 0 } ∈ (Moment.abandoned.start (.dispose { index := 0 })).library.registry := by
  have may : ∀ {moment : Moment} {happening : Happening}, Rules.free moment happening :=
    fun _ _ => trivial
  have begun : Reachable .free _ :=
    .start (.dispose { index := 0 }) reachable_furnished trivial may
  have abandoned : Reachable .free Moment.abandoned := .resume (.thrown .null) begun rfl may
  exact ⟨abandoned, rfl, ⟨_, rfl, rfl⟩, rfl, by decide, rfl, rfl, by decide⟩

end ReaderTrace
