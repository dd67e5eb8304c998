import ReaderTrace.Proofs.Contract
import ReaderTrace.Proofs.Edits
import ReaderTrace.Proofs.Move

/-!
The course that the library takes while an operation waits.

Beyond being made of moves, what clients do during a call has three effects
that the waiting operation relies on: an object file that is listed nowhere
stays so, a disposed space gains no object file, and a disposed space that is
still registered is not taken out of the registry by anyone else.
-/

namespace ReaderTrace

/-- A program space that exists and has been disposed. -/
def Library.Closed (library : Library) (space : SpaceId) : Prop :=
  ∃ record, library.space? space = some record ∧ record.disposed = true

/-! ### What no edit undoes -/

/-- Lists of object files only get shorter, but for the new files that an open
space takes. -/
structure Dwindles (library after : Library) : Prop where
  closed : ∀ space, library.Closed space →
    after.Closed space ∧ (after.owned space).Sublist (library.owned space)
  files : library.objectFiles.length ≤ after.objectFiles.length
  unlisted : ∀ space file, file.index < library.objectFiles.length →
    file ∉ library.owned space → file ∉ after.owned space

namespace Dwindles

variable {library after : Library}

theorem refl (library : Library) : Dwindles library library where
  closed := fun _ closed => ⟨closed, List.Sublist.refl _⟩
  files := Nat.le_refl _
  unlisted := fun _ _ _ unlisted => unlisted

theorem trans {middle : Library} (first : Dwindles library middle)
    (second : Dwindles middle after) : Dwindles library after where
  closed := by
    intro space closed
    have afterFirst := first.closed space closed
    have afterSecond := second.closed space afterFirst.1
    exact ⟨afterSecond.1, afterSecond.2.trans afterFirst.2⟩
  files := Nat.le_trans first.files second.files
  unlisted := by
    intro space file known unlisted
    exact second.unlisted space file (Nat.lt_of_lt_of_le known first.files)
      (first.unlisted space file known unlisted)

/-- An edit that leaves every list of object files as it is, and every disposed
space disposed. -/
theorem of_owned (ownedEq : ∀ space, after.owned space = library.owned space)
    (closed : ∀ space, library.Closed space → after.Closed space)
    (files : library.objectFiles.length ≤ after.objectFiles.length) :
    Dwindles library after := by
  constructor
  · intro space closedBefore
    have fewer : (after.owned space).Sublist (library.owned space) := by
      simp only [ownedEq, List.Sublist.refl]
    exact ⟨closed space closedBefore, fewer⟩
  · exact files
  · intro space file _ unlisted
    rw [ownedEq]
    exact unlisted

theorem of_spaces (spaces : after.spaces = library.spaces)
    (files : after.objectFiles.length = library.objectFiles.length) :
    Dwindles library after := by
  apply of_owned
  · intro space
    unfold Library.owned Library.space?
    rw [spaces]
  · intro space closed
    unfold Library.Closed Library.space? at closed ⊢
    rw [spaces]
    exact closed
  · exact Nat.le_of_eq files.symm

theorem withFile (library : Library) {space : SpaceId} (name : String) (quick : Option QuickId)
    (opened : library.isDisposed space = false) :
    Dwindles library (ProgramSpace.withFile library space name quick) := by
  constructor
  · intro other ⟨record, found, disposed⟩
    have different : other ≠ space := by
      intro same
      subst same
      unfold Library.isDisposed at opened
      rw [found] at opened
      simp [disposed] at opened
    constructor
    · refine ⟨record, Eq.trans (List.getElem?_modify_ne _ _ ?_) found, disposed⟩
      intro indexEq
      exact different (by cases other; cases space; simp_all)
    · have ownedEq := ProgramSpace.owned_withFile library other name quick opened
      simp only [ownedEq, if_neg different, List.Sublist.refl]
  · exact (List.prefix_append _ _).length_le
  · intro other file known unlisted member
    rcases ProgramSpace.mem_owned_withFile library opened member with old | ⟨new, _⟩
    · exact unlisted old
    · rw [new] at known
      exact Nat.lt_irrefl _ known

theorem strike (library : Library) (space : SpaceId) (file : ObjectFileId) :
    Dwindles library (ProgramSpace.struck library space file) := by
  constructor
  · intro other ⟨record, found, disposed⟩
    constructor
    · unfold Library.Closed Library.space? ProgramSpace.struck Library.modifySpace
      unfold Library.space? at found
      simp only [List.getElem?_modify, found]
      split
      · exact ⟨_, rfl, disposed⟩
      · exact ⟨record, rfl, disposed⟩
    · rw [ProgramSpace.owned_struck]
      split
      · next same =>
        subst same
        exact List.erase_sublist
      · exact List.Sublist.refl _
  · exact Nat.le_refl _
  · intro listing other _ unlisted member
    exact unlisted (ProgramSpace.mem_owned_of_mem_owned_struck library member)

end Dwindles

theorem Edited.dwindles {library after : Library} (edited : Edited library after) :
    Dwindles library after := by
  cases edited with
  | fileAdded space name quick opened => exact .withFile library name quick opened
  | fileStruck space file member => exact .strike library space file
  | fileDetached | symbolsRead | tableAssigned => exact .of_spaces rfl (List.length_modify _ _ _)
  | _ => exact .of_spaces rfl rfl

theorem Settling.dwindles {library after : Library} (settling : Settling library after) :
    Dwindles library after := by
  cases settling with
  | created name =>
    apply Dwindles.of_owned (ProgramSpace.owned_create library name)
    · intro space ⟨record, found, disposed⟩
      have known : space.index < library.spaces.length := (List.getElem?_eq_some_iff.mp found).1
      exact ⟨record, (List.getElem?_append_left known).trans found, disposed⟩
    · exact Nat.le_refl _
  | closed space =>
    apply Dwindles.of_owned (ProgramSpace.owned_markDisposed library space)
    · intro other ⟨record, found, disposed⟩
      change (library.modifySpace space _).Closed other
      unfold Library.Closed Library.space? Library.modifySpace
      unfold Library.space? at found
      simp only [List.getElem?_modify, found]
      split
      · exact ⟨_, rfl, rfl⟩
      · exact ⟨record, rfl, disposed⟩
    · exact Nat.le_refl _
  | forgotten space => exact .of_spaces rfl rfl

theorem Rewritten.dwindles {settles : Prop} {library after : Library}
    (rewritten : Rewritten settles library after) : Dwindles library after := by
  induction rewritten with
  | refl => exact .refl library
  | tail _ step ih =>
    rcases step with edited | ⟨_, settling⟩
    · exact ih.trans edited.dwindles
    · exact ih.trans settling.dwindles

/-! ### Moves are made of edits -/

variable {license : Operation → Prop} {world after : World}

theorem Aside.rewritten (aside : Aside license world after) :
    Rewritten True world.library after.library := by
  cases aside with
  | noted happening plain => exact .refl
  | symbolsRead file value => exact .single (Or.inl (.symbolsRead file value))
  | probeTableMade function => exact .single (Or.inl (.probeTableMade function))
  | readerTableMade table => exact .single (Or.inl (.readerTableMade table))
  | quickFunctionsMade functions => exact .single (Or.inl (.quickFunctionsMade functions))
  | tableReshaped id shape => exact (reworks_reshapeTable id shape).rewrites _
  | described object content => exact .single (Or.inl (.described object content))
  | slotAssigned table slot function => exact (reworks_assignSlot table slot function).rewrites _
  | probeTableAssigned table probes => exact (reworks_assignProbeTable table probes).rewrites _
  | probesAssigned table function => exact (reworks_assignProbes table function).rewrites _
  | streamSet stream => exact .single (Or.inl (.streamSet stream))
  | rendered value => exact .single (Or.inl (.rendered value))
  | eventCreated => exact .single (Or.inl .eventCreated)
  | subscribed event function => exact .single (Or.inl (.subscribed event (.client function)))

theorem Relogging.rewritten (relogging : Relogging license world after) :
    Rewritten True world.library after.library := by
  cases relogging with
  | released file gone => exact (reworks_release file).rewrites _
  | installed file licensed => exact (reworks_install file).rewrites _
  | uninstalled file licensed => exact (reworks_uninstall file).rewrites _
  | tableSet file table licensed known accepted => exact (reworks_setTable file table).rewrites _
  | debugSet value => exact (reworks_setDebug value).rewrites _

theorem Move.rewritten (move : Move license world after) :
    Rewritten True world.library after.library := by
  cases move with
  | aside aside => exact aside.rewritten
  | relogged relogging => exact relogging.rewritten
  | spaceCreated name => exact .single (Or.inr ⟨trivial, .created name⟩)
  | fileAdded space name quick opened => exact (reworks_addObjectFile trivial name quick).rewrites _
  | fileStruck space file member => exact (reworks_strike trivial file).rewrites _
  | fileDetached file gone => exact .single (Or.inl (.fileDetached file))
  | spaceClosed space opened => exact .single (Or.inr ⟨trivial, .closed space⟩)
  | spaceForgotten space disposed empty present =>
    exact .single (Or.inr ⟨trivial, .forgotten space⟩)

/-- What no move undoes. -/
structure Progress (library after : Library) : Prop where
  closed : ∀ space, library.Closed space →
    after.Closed space ∧ (after.owned space).length ≤ (library.owned space).length
  gone : ∀ file, library.Gone file → after.Gone file

theorem Dwindles.progress {library after : Library} (dwindles : Dwindles library after) :
    Progress library after where
  closed := by
    intro space closed
    have still := dwindles.closed space closed
    exact ⟨still.1, still.2.length_le⟩
  gone := by
    intro file ⟨known, unlisted⟩
    refine ⟨Nat.lt_of_lt_of_le known dwindles.files, fun ⟨space, member⟩ => ?_⟩
    exact dwindles.unlisted space file known (fun listed => unlisted ⟨space, listed⟩) member

theorem Path.rewritten (path : Path license world after) :
    Rewritten True world.library after.library := by
  induction path with
  | refl => exact .refl
  | tail _ move ih => exact ih.trans move.rewritten

theorem Path.progress (path : Path license world after) :
    Progress world.library after.library :=
  (Path.rewritten path).dwindles.progress

/-! ### Who listens -/

/-- The library itself listens to destroyed object files, before anyone else,
and to nothing more. -/
structure Library.Attentive (library : Library) : Prop where
  only : ∀ event, Listener.release ∈ library.listeners event → event = destroyedEvent
  first : ∃ functions : List FunctionId,
    library.listeners destroyedEvent = .release :: functions.map .client

theorem Event.listeners_create (library : Library) (event : EventId) :
    (Event.create.apply library).2.listeners event = library.listeners event := by
  change ((library.events ++ [[]])[event.index]?).getD [] = _
  rw [List.getElem?_append]
  split
  · rfl
  · next beyond =>
    unfold Library.listeners
    rw [List.getElem?_eq_none (Nat.le_of_not_lt beyond)]
    cases event.index - library.events.length <;> rfl

theorem Event.listeners_subscribe {library : Library} {event other : EventId}
    (listener : Listener) (known : other.index < library.events.length) :
    ((Event.subscribe event listener).apply library).2.listeners other =
      library.listeners other ++ if event.index = other.index then [listener] else [] := by
  change ((library.events.modify event.index (· ++ [listener]))[other.index]?).getD [] = _
  unfold Library.listeners
  rw [List.getElem?_modify, List.getElem?_eq_getElem known]
  by_cases same : event.index = other.index
  · simp [same]
  · simp [same]

/-- What is subscribed to an event that does not exist is lost. -/
theorem Event.listeners_subscribe_of_beyond {library : Library} {event other : EventId}
    (listener : Listener) (beyond : library.events.length ≤ other.index) :
    ((Event.subscribe event listener).apply library).2.listeners other = [] := by
  change ((library.events.modify event.index _)[other.index]?).getD [] = []
  rw [List.getElem?_eq_none (by rw [List.length_modify]; exact beyond)]
  rfl

namespace Library.Attentive

variable {library : Library}

theorem initial : Library.Attentive .initial := by
  refine ⟨?_, [], rfl⟩
  intro event member
  rcases event with ⟨_ | index⟩
  · rfl
  · cases member

theorem congr {after : Library} (attentive : library.Attentive)
    (same : after.events = library.events) : after.Attentive := by
  have listenersEq : ∀ event, after.listeners event = library.listeners event := by
    intro event
    unfold Library.listeners
    rw [same]
  constructor
  · intro event member
    rw [listenersEq] at member
    exact attentive.only event member
  · rw [listenersEq]
    exact attentive.first

theorem congr_bare {after : Library} (attentive : library.Attentive)
    (same : after.bare = library.bare) : after.Attentive := by
  have eventsEq : after.bare.events = library.bare.events := congrArg Library.events same
  exact attentive.congr eventsEq

private theorem known (attentive : library.Attentive) : 0 < library.events.length := by
  obtain ⟨functions, listenersEq⟩ := attentive.first
  unfold Library.listeners at listenersEq
  cases events : library.events with
  | nil =>
    rw [events] at listenersEq
    cases listenersEq
  | cons head rest => exact Nat.zero_lt_succ _

theorem createEvent (attentive : library.Attentive) :
    ((Event.create).apply library).2.Attentive := by
  constructor
  · intro event
    rw [Event.listeners_create]
    exact attentive.only event
  · rw [Event.listeners_create]
    exact attentive.first

theorem subscribe (attentive : library.Attentive) (event : EventId) (function : FunctionId) :
    ((Event.subscribe event (.client function)).apply library).2.Attentive := by
  constructor
  · intro other member
    by_cases known : other.index < library.events.length
    · rw [Event.listeners_subscribe _ known] at member
      rcases List.mem_append.mp member with before | new
      · exact attentive.only other before
      · split at new
        · cases List.mem_singleton.mp new
        · cases new
    · rw [Event.listeners_subscribe_of_beyond _ (Nat.le_of_not_lt known)] at member
      cases member
  · obtain ⟨functions, listenersEq⟩ := attentive.first
    have known : destroyedEvent.index < library.events.length := attentive.known
    rw [Event.listeners_subscribe _ known, listenersEq]
    by_cases same : event.index = destroyedEvent.index
    · exact ⟨functions ++ [function], by simp [same]⟩
    · exact ⟨functions, by simp [same]⟩

end Library.Attentive

theorem Aside.attentive (aside : Aside license world after)
    (attentive : world.library.Attentive) : after.library.Attentive := by
  cases aside with
  | eventCreated => exact attentive.createEvent
  | subscribed event function => exact attentive.subscribe event function
  | slotAssigned table slot function => cases table <;> exact attentive.congr rfl
  | probeTableAssigned table probes => cases table <;> exact attentive.congr rfl
  | probesAssigned table function =>
    refine attentive.congr ?_
    unfold World.after Edit.assignProbes
    simp only [Edit.apply_bind, Edit.apply_get]
    split <;> rfl
  | noted | symbolsRead | probeTableMade | readerTableMade | quickFunctionsMade | tableReshaped
    | described | streamSet | rendered => exact attentive.congr rfl

theorem Move.attentive (move : Move license world after) (sound : Sound world.library)
    (attentive : world.library.Attentive) : after.library.Attentive := by
  cases move with
  | aside aside => exact aside.attentive attentive
  | relogged relogging => exact attentive.congr_bare (relogging.bare sound)
  | fileAdded space name quick opened =>
    change ((ProgramSpace.addObjectFile space name quick).apply world.library).2.Attentive
    rw [ProgramSpace.apply_addObjectFile_of_open opened]
    exact attentive.congr rfl
  | fileStruck space file member =>
    change ((ProgramSpace.strike space file).apply world.library).2.Attentive
    rw [ProgramSpace.apply_strike_of_mem member]
    exact attentive.congr rfl
  | spaceCreated | fileDetached | spaceClosed | spaceForgotten => exact attentive.congr rfl

/-! ### The guarantee -/

/-- What one stretch of a run does. -/
structure Course (license : Operation → Prop) (world after : World) : Prop where
  path : Path license world after
  /-- A disposed space that is registered stays so until its own disposal ends. -/
  retained : Sound world.library → ∀ space, world.library.Closed space →
    space ∈ world.library.registry → space ∈ after.library.registry

namespace Course

theorem refl (world : World) : Course license world world :=
  ⟨.refl, fun _ _ _ member => member⟩

theorem trans {middle : World} (first : Course license world middle)
    (second : Course license middle after) : Course license world after := by
  refine ⟨first.path.trans second.path, fun sound space closed member => ?_⟩
  have soundMiddle := Path.sound first.path sound
  have closedMiddle := ((Path.progress first.path).closed space closed).1
  exact second.retained soundMiddle space closedMiddle (first.retained sound space closed member)

theorem of_move (move : Move license world after)
    (kept : ∀ space ∈ world.library.registry, space ∈ after.library.registry) :
    Course license world after :=
  ⟨.single move, fun _ space _ member => kept space member⟩

theorem of_aside (aside : Aside license world after) : Course license world after := by
  refine of_move (.aside aside) fun space member => ?_
  rw [Library.registry_of_roster aside.unmoved.roster]
  exact member

theorem of_relogging (relogging : Relogging license world after) (sound : Sound world.library) :
    Course license world after := by
  refine of_move (.relogged relogging) fun space member => ?_
  rw [← Library.registry_bare, relogging.bare sound]
  exact member

theorem noted (world : World) (happening : Happening)
    (plain : happening.milestone? = none) : Course license world (world.note happening) :=
  of_aside (.noted happening plain)

end Course

/-- The guarantee that every operation with the license gives. -/
def course (license : Operation → Prop) : Guarantee where
  holds := Course license
  refl := Course.refl
  trans := Course.trans
  noted := Course.noted

/-! ### What holds at every moment -/

/-- A world to which a run with the license can have led. -/
abbrev Begun (license : Operation → Prop) (world : World) : Prop :=
  Path license .initial world

theorem Begun.sound (begun : Begun license world) : Sound world.library :=
  Path.sound begun Sound.initial

theorem Begun.attentive (begun : Begun license world) : world.library.Attentive := by
  induction begun with
  | refl => exact Library.Attentive.initial
  | tail earlier move ih => exact move.attentive (Begun.sound earlier) ih

end ReaderTrace
