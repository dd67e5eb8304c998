import ReaderTrace.Proofs.Course

/-!
Every operation keeps to the course.

Each routine is followed once, from a world to which a run can have led. The
routines that destroy object files and dispose of program spaces rely on what
the course promises about the clients that they call in between.
-/

namespace ReaderTrace

open Routine

variable {license : Operation → Prop} {world : World}

/-! ### Sequences of edits -/

namespace World

theorem after_bind {α β : Type} {first : Edit α} {value : α} (world : World) (next : α → Edit β)
    (ok : (first.apply world.library).1 = .ok value) :
    world.after (first >>= next) = (world.after first).after (next value) := by
  unfold after
  rw [Edit.apply_bind]
  cases applied : first.apply world.library with
  | mk outcome library =>
    rw [applied] at ok
    change outcome = .ok value at ok
    rw [ok]

theorem after_bind_pure {α β : Type} (world : World) (change : Edit α) (view : α → β) :
    world.after (change >>= fun value => pure (view value)) = world.after change := by
  unfold after
  rw [Edit.apply_bind]
  rcases change.apply world.library with ⟨_ | _, _⟩ <;> rfl

end World

theorem SymbolFile.apply_activeTable (library : Library) (file : ObjectFileId) :
    (activeTable file).apply library =
      (match library.tableOf? file with
        | some table => .ok table
        | none => .error (.fault (.assertion (.noTable (library.debugName file)))),
        library) := by
  unfold activeTable
  rw [Edit.apply_bind, Edit.apply_get]
  cases active : library.tableOf? file <;> simp only [active] <;> rfl

namespace Course

theorem renderAll (world : World) (values : List Value) :
    Course license world (world.after (Edit.renderAll values)) := by
  induction values generalizing world with
  | nil => exact Course.refl world
  | cons value rest ih =>
    exact Course.trans (of_aside (.rendered value)) (ih (world.after (Edit.render value)))

private theorem renderPart (world : World) (part : RecordPart) :
    Course license world (world.after (Quick.renderPart part)) := by
  cases part with
  | bare text => exact Course.refl world
  | rendered value => exact of_aside (.rendered value)

theorem renderParts (world : World) (parts : List RecordPart) :
    Course license world (world.after (Quick.renderParts parts)) := by
  induction parts generalizing world with
  | nil => exact Course.refl world
  | cons part rest ih =>
    have first : Course license world (world.after (Quick.renderPart part)) :=
      renderPart world part
    have rendered : ∃ text, ((Quick.renderPart part).apply world.library).1 = .ok text := by
      cases part <;> exact ⟨_, rfl⟩
    obtain ⟨text, rendered⟩ := rendered
    unfold Quick.renderParts
    rw [world.after_bind _ rendered, World.after_bind_pure]
    exact Course.trans first (ih _)

private theorem fileName (world : World) (kept : Content → Option String) (object : ObjectId) :
    Course license world (world.after (Quick.fileName kept object)) := by
  unfold World.after
  rw [Quick.apply_fileName]
  split <;> exact Course.refl world

theorem renderResult (world : World) (kind : ResultKind) (result : Value) :
    Course license world (world.after (Quick.renderResult kind result)) := by
  unfold Quick.renderResult
  split
  · exact Course.refl world
  · exact of_aside (.rendered result)
  · exact Course.refl world
  · exact fileName world Content.symtab? _
  · exact fileName world Content.compunit? _
  · exact Course.refl world

theorem activeTable (world : World) (file : ObjectFileId) :
    Course license world (world.after (SymbolFile.activeTable file)) := by
  unfold World.after
  rw [SymbolFile.apply_activeTable]
  exact Course.refl world

end Course

/-! ### Calls and records -/

section Calls

variable {α β : Type}

theorem honours_edit_aside {change : Edit α} (aside : Aside license world (world.after change)) :
    Honours (course license) (Routine.edit change) world :=
  honours_edit (Course.of_aside aside)

theorem honours_map {routine : Routine α} {view : α → β}
    (honours : Honours (course license) routine world) :
    Honours (course license) (routine >>= fun value => pure (view value)) world :=
  Honours.bind honours fun value later _ => honours_pure (view value) later

theorem honours_discard {routine : Routine α}
    (honours : Honours (course license) routine world) :
    Honours (course license) (discard routine) world :=
  honours_map honours

theorem honours_writeRecord (record : String) :
    Honours (course license) (Routine.writeRecord record) world :=
  honours_library (honours_ask _ world)

theorem honours_activeTable_bind {file : ObjectFileId} {next : TableRef → Routine β}
    (second : ∀ table later, Course license world later →
      Honours (course license) (next table) later) :
    Honours (course license) (liftM (SymbolFile.activeTable file) >>= next) world :=
  Honours.bind (honours_edit (Course.activeTable world file)) second

theorem honours_invoke (function : TableFunction) (receiver : Option Receiver)
    (arguments : List Value) (world : World) :
    Honours (course license) (function.invoke receiver arguments) world := by
  induction function generalizing receiver arguments world with
  | client id => exact honours_ask _ world
  | forward how target ih =>
    refine Honours.bind (honours_edit (Course.renderAll world _)) fun texts afterTexts _ => ?_
    refine Honours.bind (honours_discard (honours_writeRecord _)) fun _ afterCall _ => ?_
    refine Honours.bind (ih _ _ afterCall) fun result afterResult _ => ?_
    split
    · refine Honours.bind (honours_edit_aside (.rendered result)) fun text afterText _ => ?_
      refine Honours.bind (honours_discard (honours_writeRecord _)) fun _ later _ => ?_
      exact honours_pure result later
    · exact honours_pure result afterResult

theorem honours_presentNames (source : TableSource) (world : World) :
    Honours (course license) (Operation.presentNamesOf source) world := by
  refine honours_library ?_
  cases source.table? world.library with
  | none => exact honours_pure _ world
  | some table => exact honours_pure _ world

theorem honours_callMethod (source : TableSource) (method : Option Slot)
    (arguments : List Value) (detached : Bool) (world : World) :
    Honours (course license) (Operation.invoke source method arguments detached) world := by
  refine honours_library ?_
  split
  · exact honours_pure _ world
  · exact honours_map (honours_invoke _ _ _ world)

end Calls

/-! ### Quick functions -/

section QuickFunctions

theorem honours_quickAsk (functions : QuickId) (function : QuickFunction) (file : ObjectFileId)
    (arguments : List Value) (world : World) :
    Honours (course license) (Quick.ask functions function file arguments) world :=
  honours_ask _ world

theorem honours_recordCall (debug : Bool) (name : String) (request : QuickRequest Value)
    (texts : List String) (world : World) :
    Honours (course license) (Quick.recordCall debug name request texts) world := by
  unfold Quick.recordCall
  split
  · exact honours_discard (honours_writeRecord _)
  · exact honours_pure _ world

theorem honours_consult (functions : Option QuickId) (file : ObjectFileId)
    (request : QuickRequest Value) (world : World) :
    Honours (course license) (Quick.consult functions file request) world := by
  cases functions with
  | none => exact honours_pure _ world
  | some functions => exact honours_quickAsk functions _ file _ world

theorem honours_recordResult (debug : Bool) (request : QuickRequest Value) (result : Value)
    (world : World) :
    Honours (course license) (Quick.recordResult debug request result) world := by
  unfold Quick.recordResult
  split
  · refine Honours.bind (honours_edit (Course.renderResult world _ result)) fun text later _ => ?_
    cases text with
    | none => exact honours_pure _ later
    | some text => exact honours_discard (honours_writeRecord _)
  · exact honours_pure _ world

theorem honours_access (file : ObjectFileId) (request : QuickRequest Value) (world : World) :
    Honours (course license) (Quick.access file request) world := by
  refine Honours.bind (honours_edit (Course.renderParts world _)) fun texts before _ => ?_
  refine honours_library ?_
  refine Honours.bind (honours_recordCall _ _ request texts before) fun _ recorded _ => ?_
  refine Honours.bind (honours_consult _ file request recorded) fun result after _ => ?_
  exact honours_library (honours_map (honours_recordResult _ request result after))

theorem honours_couldRead (functions : QuickId) (file : ObjectFileId) (world : World) :
    Honours (course license) (Quick.couldRead functions file) world := by
  refine honours_library ?_
  dsimp only
  split
  · exact honours_map (honours_ask _ world)
  · exact honours_pure _ world

theorem honours_haveSymbols (functions : Option QuickId) (file : ObjectFileId) (world : World) :
    Honours (course license) (Quick.haveSymbols functions file) world := by
  cases functions with
  | none => exact honours_pure _ world
  | some functions =>
    refine Honours.bind (honours_couldRead functions file world) fun lazily later _ => ?_
    split
    · exact honours_pure _ later
    · exact honours_quickAsk functions _ file _ later

theorem honours_recordAnswer (debug : Bool) (name : String) (answer : Value) (world : World) :
    Honours (course license) (Quick.recordAnswer debug name answer) world := by
  unfold Quick.recordAnswer
  split
  · refine Honours.bind (honours_edit_aside (.rendered answer)) fun text later _ => ?_
    exact honours_discard (honours_writeRecord _)
  · exact honours_pure _ world

theorem honours_hasPartialSymbols (file : ObjectFileId) (world : World) :
    Honours (course license) (Quick.hasPartialSymbols file) world := by
  refine honours_library ?_
  refine Honours.bind (honours_haveSymbols _ file world) fun answer after _ => ?_
  exact honours_library (honours_map (honours_recordAnswer _ _ answer after))

theorem honours_symbolLanguage (file : ObjectFileId) (name : String) (domain : Domain)
    (world : World) :
    Honours (course license) (Quick.symbolLanguage file name domain) world := by
  refine honours_library ?_
  cases world.library.quickOf? file with
  | none => exact honours_pure _ world
  | some functions =>
    refine Honours.bind (honours_quickAsk functions _ file _ world) fun answer later _ => ?_
    apply honours_library
    split
    · exact honours_pure _ later
    · exact honours_raise _ later

end QuickFunctions

/-! ### Events -/

section Events

theorem honours_notify_client (function : FunctionId) (data : Value) (world : World) :
    Honours (course license) (Event.notify data (.client function)) world :=
  honours_discard (honours_ask _ world)

theorem honours_post {event : EventId} (data : Value) (begun : Begun license world)
    (own : event ≠ destroyedEvent) :
    Honours (course license) (Event.post event data) world := by
  refine honours_library (honours_forM fun listener member later _ => ?_)
  cases listener with
  | release => exact absurd (begun.attentive.only event member) own
  | client function => exact honours_notify_client function data later

/-- Announcing a destruction lets go of an object file that no space lists, and
it is listed by none until all listeners have been told. -/
theorem honours_announce {file : ObjectFileId} (begun : Begun license world)
    (gone : world.library.Gone file) :
    Honours (course license) (Event.post destroyedEvent (.objectFile file)) world := by
  refine honours_library (honours_forM fun listener _ later reached => ?_)
  cases listener with
  | release =>
    have begunLater : Begun license later := begun.trans reached.path
    have goneLater := (Path.progress reached.path).gone file gone
    exact honours_edit (Course.of_relogging (.released file goneLater) begunLater.sound)
  | client function => exact honours_notify_client function _ later

end Events

/-! ### Program spaces -/

section Spaces

theorem honours_addObjectFile (space : SpaceId) (name : String) (quick : Option QuickId)
    (world : World) :
    Honours (course license) (Routine.edit (ProgramSpace.addObjectFile space name quick)) world := by
  refine honours_edit ?_
  cases disposed : world.library.isDisposed space with
  | true =>
    have refused : world.after (ProgramSpace.addObjectFile space name quick) = world := by
      unfold World.after
      rw [ProgramSpace.apply_addObjectFile_of_disposed disposed]
    change Course license world _
    rw [refused]
    exact Course.refl world
  | false =>
    refine Course.of_move (.fileAdded space name quick disposed) fun other member => ?_
    unfold World.after
    rw [ProgramSpace.apply_addObjectFile_of_open disposed]
    exact member

/-- The world in which the destruction of `file` is about to be announced. -/
def World.withoutFile (world : World) (space : SpaceId) (file : ObjectFileId) : World :=
  { world with library := ProgramSpace.struck world.library space file }.note
    (.reached (.destroyed file))

theorem Move.withoutFile {space : SpaceId} {file : ObjectFileId}
    (member : file ∈ world.library.owned space) :
    Move license world (world.withoutFile space file) := by
  have struck : world.withoutFile space file =
      (world.after (ProgramSpace.strike space file)).note (.reached (.destroyed file)) := by
    unfold World.withoutFile World.after
    rw [ProgramSpace.apply_strike_of_mem member]
  rw [struck]
  exact .fileStruck space file member

theorem honours_destroyed {space : SpaceId} {file : ObjectFileId} (begun : Begun license world)
    (member : file ∈ world.library.owned space) :
    Honours (course license)
      (do
        Event.post destroyedEvent (.objectFile file)
        Edit.detach file : Routine Unit)
      (world.withoutFile space file) := by
  have begunWithout : Begun license (world.withoutFile space file) :=
    begun.tail (Move.withoutFile member)
  have gone : (world.withoutFile space file).library.Gone file :=
    begun.sound.registered.gone_struck member
  refine Honours.bind (honours_announce begunWithout gone) fun _ announced reached => ?_
  have goneStill := (Path.progress reached.path).gone file gone
  exact honours_edit (Course.of_move (.fileDetached file goneStill) fun _ registered => registered)

theorem follows_removeObjectFile {space : SpaceId} {file : ObjectFileId}
    (begun : Begun license world) (member : file ∈ world.library.owned space) :
    Follows (course license) (ProgramSpace.removeObjectFile space file) world world
      fun _ later => Course license (world.withoutFile space file) later := by
  have moved : Course license world (world.withoutFile space file) :=
    Course.of_move (Move.withoutFile member) fun _ registered => registered
  refine follows_bind.mpr ?_
  change Afterwards _ _ _ _ ((ProgramSpace.strike space file).apply world.library).1
    { world with library := ((ProgramSpace.strike space file).apply world.library).2 }
  rw [ProgramSpace.apply_strike_of_mem member]
  exact Follows.since moved (honours_destroyed begun member)

theorem honours_removeObjectFile (space : SpaceId) (file : ObjectFileId)
    (begun : Begun license world) :
    Honours (course license) (ProgramSpace.removeObjectFile space file) world := by
  by_cases member : file ∈ world.library.owned space
  · refine (follows_removeObjectFile begun member).mono fun _ later reached => ?_
    exact Course.trans (Course.of_move (Move.withoutFile member) fun _ registered => registered)
      reached
  · have refused : world.after (ProgramSpace.strike space file) = world := by
      unfold World.after
      rw [ProgramSpace.apply_strike_of_notMem member]
    refine follows_bind.mpr ?_
    change Afterwards _ _ _ _ ((ProgramSpace.strike space file).apply world.library).1
      (world.after (ProgramSpace.strike space file))
    rw [refused, ProgramSpace.apply_strike_of_notMem member]
    exact Course.refl world

/-- A disposed space is empty after as many removals as it owned files. -/
theorem follows_removeAll {space : SpaceId} {count : Nat} (begun : Begun license world)
    (closed : world.library.Closed space) (enough : (world.library.owned space).length ≤ count) :
    Follows (course license) (ProgramSpace.removeAll space count) world world
      fun outcome later => Course license world later ∧
        (outcome = .ok () → later.library.owned space = []) := by
  induction count generalizing world with
  | zero => exact ⟨Course.refl world, fun _ => List.length_eq_zero_iff.mp (Nat.le_zero.mp enough)⟩
  | succ count ih =>
    refine follows_library ?_
    cases last : (world.library.owned space).getLast? with
    | none => exact ⟨Course.refl world, fun _ => List.getLast?_eq_none_iff.mp last⟩
    | some file =>
      have member := List.mem_of_getLast? last
      have moved : Course license world (world.withoutFile space file) :=
        Course.of_move (Move.withoutFile member) fun _ registered => registered
      have closedWithout := ((Path.progress moved.path).closed space closed).1
      have fewer : ((world.withoutFile space file).library.owned space).length ≤ count := by
        change ((ProgramSpace.struck world.library space file).owned space).length ≤ count
        rw [ProgramSpace.owned_struck, if_pos rfl, List.length_erase_of_mem member]
        omega
      refine follows_bind.mpr ((follows_removeObjectFile begun member).mono ?_)
      intro outcome later reached
      have since := Course.trans moved reached
      cases outcome with
      | error raised => exact ⟨since, fun impossible => by cases impossible⟩
      | ok _ =>
        have progress := (Path.progress reached.path).closed space closedWithout
        have begunLater := begun.trans since.path
        refine Follows.since since ((ih begunLater progress.1 ?_).mono ?_)
        · exact Nat.le_trans progress.2 fewer
        · intro outcome finish emptied
          exact ⟨Course.trans since emptied.1, emptied.2⟩

private theorem course_unregister {space : SpaceId} {later : World}
    (since : Course license world later) (opened : world.library.isDisposed space = false)
    (disposed : later.library.isDisposed space = true) (empty : later.library.owned space = [])
    (present : space ∈ later.library.registry) :
    Course license world (later.after (ProgramSpace.unregister space)) := by
  refine ⟨since.path.tail (.spaceForgotten space disposed empty present), ?_⟩
  intro sound other closed registered
  have different : other ≠ space := by
    intro same
    subst same
    obtain ⟨record, found, isDisposed⟩ := closed
    unfold Library.isDisposed at opened
    rw [found] at opened
    change record.disposed = false at opened
    rw [isDisposed] at opened
    cases opened
  have kept := since.retained sound other closed registered
  change other ∈ (if later.library.registry.contains space then later.library.registry.erase space
    else later.library.registry.dropLast)
  rw [if_pos (List.contains_iff_mem.mpr present)]
  exact (List.mem_erase_of_ne different).mpr kept

theorem ProgramSpace.closed_markDisposed {library : Library} {space : SpaceId}
    (opened : library.isDisposed space = false) :
    ((markDisposed space).apply library).2.Closed space := by
  change (library.modifySpace space _).Closed space
  unfold Library.Closed Library.space? Library.modifySpace
  rw [List.getElem?_modify_eq]
  cases found : library.spaces[space.index]? with
  | none =>
    unfold Library.isDisposed Library.space? at opened
    simp [found] at opened
  | some record => exact ⟨_, rfl, rfl⟩

theorem Library.Closed.isDisposed {library : Library} {space : SpaceId}
    (closed : library.Closed space) : library.isDisposed space = true := by
  obtain ⟨record, found, disposed⟩ := closed
  unfold Library.isDisposed
  rw [found]
  exact disposed

theorem honours_dispose (space : SpaceId) (begun : Begun license world) :
    Honours (course license) (ProgramSpace.dispose space) world := by
  refine honours_library ?_
  cases disposed : world.library.isDisposed space with
  | true => exact honours_pure _ world
  | false =>
    have marked : Course license world (world.after (ProgramSpace.markDisposed space)) :=
      Course.of_move (.spaceClosed space disposed) fun _ registered => registered
    have begunMarked : Begun license (world.after (ProgramSpace.markDisposed space)) :=
      begun.trans marked.path
    have closed : (world.after (ProgramSpace.markDisposed space)).library.Closed space :=
      ProgramSpace.closed_markDisposed disposed
    have registered : space ∈ (world.after (ProgramSpace.markDisposed space)).library.registry :=
      begun.sound.registered.opened space disposed
    have enough :
        ((world.after (ProgramSpace.markDisposed space)).library.owned space).length ≤
          (world.library.owned space).length := by
      refine Nat.le_of_eq (congrArg List.length ?_)
      exact ProgramSpace.owned_markDisposed world.library space space
    change Follows (course license) (do
        ProgramSpace.removeAll space (world.library.owned space).length
        ProgramSpace.unregister space : Routine Unit)
      world (world.after (ProgramSpace.markDisposed space)) _
    refine follows_bind.mpr
      (Follows.since marked ((follows_removeAll begunMarked closed enough).mono ?_))
    intro outcome later ⟨reached, empty⟩
    have since := Course.trans marked reached
    cases outcome with
    | error raised => exact since
    | ok _ =>
      have closedLater := ((Path.progress reached.path).closed space closed).1
      have present := reached.retained begunMarked.sound space closed registered
      exact course_unregister since disposed closedLater.isDisposed (empty rfl) present

end Spaces

/-! ### Symbol files -/

section SymbolFiles

theorem honours_setTable {file : ObjectFileId} {table : TableRef} (begun : Begun license world)
    (licensed : ∃ operation, license operation ∧ operation.handedTable? = some table)
    (known : world.library.HasTable table) :
    Honours (course license) (SymbolFile.setTable file table) world := by
  refine follows_bind.mpr ?_
  change Afterwards _ _ _ _ ((Logging.setTable file table).apply world.library).1
    (world.after (Logging.setTable file table))
  cases outcome : ((Logging.setTable file table).apply world.library).1 with
  | ok _ => exact Course.of_relogging (.tableSet file table licensed known outcome) begun.sound
  | error raised =>
    have refused := begun.sound.layer.setTable_refused outcome
    unfold World.after
    rw [refused]
    exact Course.refl world

theorem honours_callPresent (file : ObjectFileId) (slot : Slot) (arguments : List Value)
    (world : World) :
    Honours (course license) (SymbolFile.callPresent file slot arguments) world := by
  refine honours_activeTable_bind fun table later _ => honours_library ?_
  cases later.library.function? table slot with
  | none => exact honours_pure _ later
  | some function => exact honours_discard (honours_invoke _ _ _ later)

theorem honours_load {file : ObjectFileId} {table : TableRef} (flags : Double)
    (begun : Begun license world)
    (licensed : ∃ operation, license operation ∧ operation.handedTable? = some table)
    (known : world.library.HasTable table) :
    Honours (course license) (SymbolFile.load file table flags) world := by
  refine Honours.bind (honours_setTable begun licensed known) fun _ set _ => ?_
  refine Honours.bind (honours_callPresent file _ _ set) fun _ began _ => ?_
  refine Honours.bind (honours_callPresent file _ _ began) fun _ initialised _ => ?_
  split
  · exact honours_pure _ initialised
  · refine Honours.bind (honours_callPresent file _ _ initialised) fun _ read _ => ?_
    refine Honours.bind (honours_edit_aside (.symbolsRead file true)) fun _ flagged _ => ?_
    exact honours_callPresent file _ _ flagged

theorem honours_addSymbolFile {space : SpaceId} {name : String} {quick : Option QuickId}
    {table : TableRef} (flags : Double) (begun : Begun license world)
    (licensed : ∃ operation, license operation ∧ operation.handedTable? = some table)
    (known : world.library.HasTable table) :
    Honours (course license) (SymbolFile.add space name quick table flags) world := by
  have adds : Honours (course license) (Routine.edit (ProgramSpace.addObjectFile space name quick))
      world := honours_addObjectFile space name quick world
  have knownAfter :
      (world.after (ProgramSpace.addObjectFile space name quick)).library.HasTable table := by
    unfold World.after
    rw [ProgramSpace.apply_addObjectFile]
    split <;> exact known
  refine follows_bind.mpr ?_
  change Afterwards _ _ _ _ ((ProgramSpace.addObjectFile space name quick).apply world.library).1
    (world.after (ProgramSpace.addObjectFile space name quick))
  cases ((ProgramSpace.addObjectFile space name quick).apply world.library).1 with
  | error raised => exact adds
  | ok file =>
    have begunAdded : Begun license (world.after (ProgramSpace.addObjectFile space name quick)) :=
      begun.trans (Course.path adds)
    refine Follows.since adds ((honours_map (honours_load flags begunAdded licensed knownAfter)).mono
      fun _ later loaded => ?_)
    exact Course.trans adds loaded

theorem honours_finish (space : SpaceId) (file : ObjectFileId) (begun : Begun license world) :
    Honours (course license) (SymbolFile.finish space file) world := by
  refine Honours.bind (honours_callPresent file _ _ world) fun _ later reached => ?_
  exact honours_removeObjectFile space file (begun.trans (Course.path reached))

theorem honours_probes (file : ObjectFileId) (world : World) :
    Honours (course license) (SymbolFile.probes file) world := by
  refine honours_activeTable_bind fun table later _ => honours_library ?_
  cases later.library.probes? table with
  | none => exact honours_pure _ later
  | some found => exact honours_map (honours_invoke _ _ _ later)

theorem honours_relocate (file : ObjectFileId) (sectionInfo buffer : Value) (world : World) :
    Honours (course license) (SymbolFile.relocate file sectionInfo buffer) world := by
  refine honours_activeTable_bind fun table later _ => honours_library ?_
  cases later.library.function? table .relocate with
  | none => exact honours_raise _ later
  | some function => exact honours_invoke _ _ _ later

end SymbolFiles

/-! ### All operations -/

private theorem honours_setDebug (value : Bool) (begun : Begun license world) :
    Honours (course license) (Routine.edit (Logging.setDebug value)) world :=
  honours_edit (Course.of_relogging (.debugSet value) begun.sound)

private theorem honours_setCommand (text : String) (begun : Begun license world) :
    Honours (course license) (Routine.edit (Logging.setCommand text)) world := by
  unfold Logging.setCommand
  split
  · exact honours_edit (Course.refl world)
  · exact honours_setDebug _ begun

private theorem honours_applyEnvironment (environment : Environment)
    (begun : Begun license world) :
    Honours (course license) (Routine.edit (Logging.applyEnvironment environment)) world := by
  unfold Logging.applyEnvironment
  split
  · exact honours_edit (Course.refl world)
  · exact honours_setDebug _ begun

/-- Whatever operation a licensed client starts, the library keeps to the
course that the license bounds. -/
theorem Operation.honours_course {operation : Operation} (licensed : license operation)
    (admissible : operation.Admissible world.library) (begun : Begun license world) :
    Honours (course license) operation.routine world := by
  cases operation with
  | createSpace name =>
    exact honours_map (honours_edit (Course.of_move (.spaceCreated name) fun _ registered =>
      List.mem_append_left _ registered))
  | addObjectFile space name quick =>
    exact honours_map (honours_addObjectFile space name quick world)
  | removeObjectFile space file => exact honours_map (honours_removeObjectFile space file begun)
  | dispose space => exact honours_map (honours_dispose space begun)
  | setPartialSymbolsRead file value =>
    exact honours_map (honours_edit_aside (.symbolsRead file value))
  | newProbeTable function => exact honours_map (honours_edit_aside (.probeTableMade function))
  | newReaderTable table =>
    exact honours_map (honours_edit_aside (.readerTableMade table admissible))
  | newQuickFunctions functions =>
    exact honours_map (honours_edit_aside (.quickFunctionsMade functions))
  | reshapeTable id shape =>
    exact honours_map (honours_edit_aside (.tableReshaped id shape licensed admissible))
  | assignSlot table slot function =>
    exact honours_map (honours_edit_aside (.slotAssigned table slot function licensed))
  | assignProbeTable table replacement =>
    exact honours_map (honours_edit_aside (.probeTableAssigned table replacement licensed))
  | assignProbes table function =>
    exact honours_map (honours_edit_aside (.probesAssigned table function licensed))
  | presentNames source => exact honours_presentNames source world
  | callMethod source method arguments detached =>
    exact honours_callMethod source method arguments detached world
  | setTable file table =>
    exact honours_map (honours_setTable begun ⟨_, licensed, rfl⟩ admissible)
  | install file =>
    exact honours_map (honours_edit (Course.of_relogging (.installed file licensed) begun.sound))
  | uninstall file =>
    exact honours_map (honours_edit (Course.of_relogging (.uninstalled file licensed) begun.sound))
  | setDebug value => exact honours_map (honours_setDebug value begun)
  | setCommand text => exact honours_map (honours_setCommand text begun)
  | applyConfiguration configuration => exact honours_map (honours_setDebug _ begun)
  | applyEnvironment environment => exact honours_map (honours_applyEnvironment environment begun)
  | setStream stream => exact honours_map (honours_edit_aside (.streamSet stream))
  | writeRecord text => exact honours_map (honours_writeRecord text)
  | render value => exact honours_map (honours_edit_aside (.rendered value))
  | addSymbolFile space name quick table flags =>
    exact honours_map (honours_addSymbolFile flags begun ⟨_, licensed, rfl⟩ admissible)
  | finishSymbolFile space file => exact honours_map (honours_finish space file begun)
  | probes file => exact honours_map (honours_probes file world)
  | relocate file sectionInfo buffer =>
    exact honours_map (honours_relocate file sectionInfo buffer world)
  | describe object content => exact honours_map (honours_edit_aside (.described object content))
  | hasPartialSymbols file => exact honours_map (honours_hasPartialSymbols file world)
  | access file request => exact honours_map (honours_access file request world)
  | symbolLanguage file name domain =>
    exact honours_map (honours_symbolLanguage file name domain world)
  | createEvent => exact honours_map (honours_edit_aside .eventCreated)
  | subscribe event function => exact honours_map (honours_edit_aside (.subscribed event function))
  | post event data => exact honours_map (honours_post data begun admissible)

/-- Every moment of a run is reached by moves that the license allows. -/
theorem Reachable.begun {rules : Rules}
    (permits : ∀ moment operation, rules moment (.started operation) → license operation)
    {moment : Moment} (reachable : Reachable rules moment) :
    Begun license moment.toWorld := by
  have backed : Backed (course license) moment.pending moment.toWorld :=
    reachable.backed permits fun operation world licensed admissible begun =>
      Operation.honours_course licensed admissible begun.path
  exact backed.since_initial.path

end ReaderTrace
