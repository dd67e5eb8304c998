import Mathlib.Logic.Relation
import ReaderTrace.Moment
import ReaderTrace.Proofs.Layer

/-!
The moves of which every run is made.

A move is one atomic change of the library together with the milestone that
belongs to it. Most moves are aside from what is live and what is logged. The
license says which operations the clients of a run may start, and it bounds
the moves that such a run can make.
-/

namespace ReaderTrace

namespace World

theorem milestones_note (world : World) (happening : Happening) :
    (world.note happening).milestones =
      world.milestones ++ happening.milestone?.toList := by
  change (world.history ++ [happening]).filterMap Happening.milestone? = _
  rw [List.filterMap_append]
  unfold milestones
  cases found : happening.milestone? <;> simp [found]

end World

/-- The table that an operation hands to the gated setter. -/
def Operation.handedTable? : Operation → Option TableRef
  | .setTable _ table => some table
  | .addSymbolFile _ _ _ table _ => some table
  | _ => none

/-- Moves that concern neither the roster nor the logging. -/
inductive Aside (license : Operation → Prop) (world : World) : World → Prop
  | noted (happening : Happening) (plain : happening.milestone? = none) :
      Aside license world (world.note happening)
  | symbolsRead (file : ObjectFileId) (value : Bool) :
      Aside license world (world.after (Edit.setPartialSymbolsRead file value))
  | probeTableMade (function : FunctionId) :
      Aside license world (world.after (Edit.newProbeTable function))
  | readerTableMade (table : ReaderTable)
      (admissible : (Operation.newReaderTable table).Admissible world.library) :
      Aside license world (world.after (Edit.newReaderTable table))
  | quickFunctionsMade (functions : QuickFunctions) :
      Aside license world (world.after (Edit.newQuickFunctions functions))
  | tableReshaped (id : ReaderTableId) (shape : ReaderTable)
      (licensed : license (.reshapeTable id shape))
      (admissible : (Operation.reshapeTable id shape).Admissible world.library) :
      Aside license world (world.after (Edit.reshapeTable id shape))
  | slotAssigned (table : TableRef) (slot : Slot) (function : Option FunctionId)
      (licensed : license (.assignSlot table slot function)) :
      Aside license world (world.after (Edit.assignSlot table slot function))
  | probeTableAssigned (table : TableRef) (probes : Option ProbeTableId)
      (licensed : license (.assignProbeTable table probes)) :
      Aside license world (world.after (Edit.assignProbeTable table probes))
  | probesAssigned (table : TableRef) (function : FunctionId)
      (licensed : license (.assignProbes table function)) :
      Aside license world (world.after (Edit.assignProbes table function))
  | described (object : ObjectId) (content : Content) :
      Aside license world (world.after (Edit.describe object content))
  | streamSet (stream : Stream) : Aside license world (world.after (Edit.setStream stream))
  | rendered (value : Value) : Aside license world (world.after (Edit.render value))
  | eventCreated : Aside license world (world.after Event.create)
  | subscribed (event : EventId) (function : FunctionId) :
      Aside license world (world.after (Event.subscribe event (.client function)))

/-- Moves that put logging on object files, take it off or move it over. -/
inductive Relogging (license : Operation → Prop) (world : World) : World → Prop
  | released (file : ObjectFileId) (gone : world.library.Gone file) :
      Relogging license world (world.after (Logging.release file))
  | installed (file : ObjectFileId) (licensed : license (.install file)) :
      Relogging license world (world.after (Logging.install file))
  | uninstalled (file : ObjectFileId) (licensed : license (.uninstall file)) :
      Relogging license world (world.after (Logging.uninstall file))
  | tableSet (file : ObjectFileId) (table : TableRef)
      (licensed : ∃ operation, license operation ∧ operation.handedTable? = some table)
      (known : world.library.HasTable table)
      (accepted : ((Logging.setTable file table).apply world.library).1 = .ok ()) :
      Relogging license world
        ((world.after (Logging.setTable file table)).note (.reached (.tableSet file table)))
  | debugSet (value : Bool) : Relogging license world (world.after (Logging.setDebug value))

inductive Move (license : Operation → Prop) (world : World) : World → Prop
  | aside {after : World} (aside : Aside license world after) : Move license world after
  | relogged {after : World} (relogging : Relogging license world after) :
      Move license world after
  | spaceCreated (name : Option String) :
      Move license world (world.after (ProgramSpace.create name))
  | fileAdded (space : SpaceId) (name : String) (quick : Option QuickId)
      (opened : world.library.isDisposed space = false) :
      Move license world (world.after (ProgramSpace.addObjectFile space name quick))
  | fileStruck (space : SpaceId) (file : ObjectFileId)
      (member : file ∈ world.library.owned space) :
      Move license world
        ((world.after (ProgramSpace.strike space file)).note (.reached (.destroyed file)))
  | fileDetached (file : ObjectFileId) (gone : world.library.Gone file) :
      Move license world (world.after (Edit.detach file))
  | spaceClosed (space : SpaceId) (opened : world.library.isDisposed space = false) :
      Move license world (world.after (ProgramSpace.markDisposed space))
  | spaceForgotten (space : SpaceId) (disposed : world.library.isDisposed space = true)
      (empty : world.library.owned space = []) (present : space ∈ world.library.registry) :
      Move license world (world.after (ProgramSpace.unregister space))

abbrev Path (license : Operation → Prop) : World → World → Prop :=
  Relation.ReflTransGen (Move license)

/-! ### Moves aside -/

/-- Nothing that is live or logged is different, and no milestone was reached. -/
structure Unmoved (world after : World) : Prop where
  roster : after.library.roster = world.library.roster
  layer : SameLayer world.library after.library
  debug : after.library.debug = world.library.debug
  milestones : after.milestones = world.milestones

private theorem sameLayer_of_eq {library after : Library}
    (files : after.objectFiles = library.objectFiles)
    (debugData : after.debugData = library.debugData) (shadows : after.shadows = library.shadows)
    (readers : library.readerTables.length ≤ after.readerTables.length) :
    SameLayer library after where
  tables := by
    intro file
    unfold Library.tableOf? Library.objectFile?
    rw [files]
  attached := by
    intro file
    unfold Library.isAttached Library.objectFile?
    rw [files]
  debugData := debugData
  shadows := shadows
  readers := readers

private theorem unmoved_symbolsRead (world : World) (file : ObjectFileId) (value : Bool) :
    Unmoved world (world.after (Edit.setPartialSymbolsRead file value)) := by
  have rosterEq :
      (world.after (Edit.setPartialSymbolsRead file value)).library.roster =
        world.library.roster := by
    have flags :
        (world.after (Edit.setPartialSymbolsRead file value)).library.objectFiles.map
            ObjectFile.attached =
          world.library.objectFiles.map ObjectFile.attached :=
      world.library.map_objectFiles_of_kept fun _ => rfl
    exact congrArg (fun flags => (world.library.spaces, world.library.registry, flags)) flags
  refine ⟨rosterEq, ⟨?_, ?_, rfl, rfl, Nat.le_refl _⟩, rfl, rfl⟩
  · exact world.library.tableOf?_of_kept fun _ => rfl
  · exact fun other => Library.isAttached_of_roster rosterEq other

theorem Aside.unmoved {license : Operation → Prop} {world after : World}
    (aside : Aside license world after) : Unmoved world after := by
  cases aside with
  | noted happening plain =>
    refine ⟨rfl, sameLayer_of_eq rfl rfl rfl (Nat.le_refl _), rfl, ?_⟩
    rw [World.milestones_note, plain]
    exact List.append_nil _
  | symbolsRead file value => exact unmoved_symbolsRead world file value
  | probeTableMade function =>
    exact ⟨rfl, sameLayer_of_eq rfl rfl rfl (Nat.le_refl _), rfl, rfl⟩
  | readerTableMade table =>
    refine ⟨rfl, sameLayer_of_eq rfl rfl rfl ?_, rfl, rfl⟩
    exact (List.prefix_append _ _).length_le
  | quickFunctionsMade functions =>
    exact ⟨rfl, sameLayer_of_eq rfl rfl rfl (Nat.le_refl _), rfl, rfl⟩
  | tableReshaped id shape =>
    refine ⟨rfl, sameLayer_of_eq rfl rfl rfl ?_, rfl, rfl⟩
    exact Nat.le_of_eq (List.length_modify _ _ _).symm
  | slotAssigned table slot function =>
    cases table with
    | reader id =>
      refine ⟨rfl, sameLayer_of_eq rfl rfl rfl ?_, rfl, rfl⟩
      exact Nat.le_of_eq (List.length_modify _ _ _).symm
    | shadow id => exact ⟨rfl, sameLayer_of_eq rfl rfl rfl (Nat.le_refl _), rfl, rfl⟩
  | probeTableAssigned table probes =>
    cases table with
    | reader id =>
      refine ⟨rfl, sameLayer_of_eq rfl rfl rfl ?_, rfl, rfl⟩
      exact Nat.le_of_eq (List.length_modify _ _ _).symm
    | shadow id => exact ⟨rfl, sameLayer_of_eq rfl rfl rfl (Nat.le_refl _), rfl, rfl⟩
  | probesAssigned table function =>
    unfold World.after Edit.assignProbes
    simp only [Edit.apply_bind, Edit.apply_get]
    split <;> exact ⟨rfl, sameLayer_of_eq rfl rfl rfl (Nat.le_refl _), rfl, rfl⟩
  | described object content =>
    exact ⟨rfl, sameLayer_of_eq rfl rfl rfl (Nat.le_refl _), rfl, rfl⟩
  | streamSet stream =>
    exact ⟨rfl, sameLayer_of_eq rfl rfl rfl (Nat.le_refl _), rfl, rfl⟩
  | rendered value =>
    exact ⟨rfl, sameLayer_of_eq rfl rfl rfl (Nat.le_refl _), rfl, rfl⟩
  | eventCreated =>
    exact ⟨rfl, sameLayer_of_eq rfl rfl rfl (Nat.le_refl _), rfl, rfl⟩
  | subscribed event function =>
    exact ⟨rfl, sameLayer_of_eq rfl rfl rfl (Nat.le_refl _), rfl, rfl⟩

/-! ### The invariants of every run -/

/-- What holds of the library at every moment of every run. -/
structure Sound (library : Library) : Prop where
  registered : Registered library
  layer : Layer library

namespace Sound

variable {library after : Library}

theorem initial : Sound .initial :=
  ⟨Registered.initial, Layer.initial⟩

theorem isAttached_of_mem_live (sound : Sound library) {file : ObjectFileId}
    (member : file ∈ library.live) : library.isAttached file = true :=
  sound.registered.isAttached_of_lists (sound.registered.mem_live_iff.mp member)

theorem apply_setDebug (sound : Sound library) (value : Bool) :
    (Logging.setDebug value).apply library =
      (.ok (), Logging.walked value { library with debug := value } library.live) :=
  Logging.apply_setDebug value fun _ member => sound.isAttached_of_mem_live member

theorem bare_setTable (sound : Sound library) (file : ObjectFileId) (table : TableRef) :
    ((Logging.setTable file table).apply library).2.bare = library.bare := by
  rw [sound.layer.apply_setTable]
  split
  · rfl
  · split
    · exact Logging.bare_reset library file table
    · rfl

theorem bare_setDebug (sound : Sound library) (value : Bool) :
    ((Logging.setDebug value).apply library).2.bare = library.bare := by
  rw [sound.apply_setDebug, Logging.bare_walked]
  rfl

end Sound

theorem Registered.congr_bare {library after : Library} (registered : Registered library)
    (same : after.bare = library.bare) : Registered after := by
  refine registered.congr ?_
  rw [← Library.roster_bare, same, Library.roster_bare]

variable {license : Operation → Prop} {world after : World}

theorem Relogging.bare (relogging : Relogging license world after) (sound : Sound world.library) :
    after.library.bare = world.library.bare := by
  cases relogging with
  | released file gone => exact Logging.bare_release world.library file
  | installed file licensed => exact Logging.bare_install world.library file
  | uninstalled file licensed => exact Logging.bare_uninstall world.library file
  | tableSet file table licensed known accepted => exact sound.bare_setTable file table
  | debugSet value => exact sound.bare_setDebug value

theorem Relogging.layer (relogging : Relogging license world after)
    (sound : Sound world.library) : Layer after.library := by
  have layer := sound.layer
  cases relogging with
  | released file gone => exact layer.release file
  | installed file licensed => exact layer.install file
  | uninstalled file licensed => exact layer.uninstall file
  | tableSet file table licensed known accepted =>
    change Layer ((Logging.setTable file table).apply world.library).2
    rw [layer.apply_setTable]
    split
    · exact layer
    · split
      · next attached => exact layer.reset known attached
      · exact layer
  | debugSet value => exact layer.setDebug sound.registered value

theorem Move.registered (move : Move license world after) (sound : Sound world.library) :
    Registered after.library := by
  have registered := sound.registered
  cases move with
  | aside aside => exact registered.congr aside.unmoved.roster
  | relogged relogging => exact registered.congr_bare (relogging.bare sound)
  | spaceCreated name => exact registered.create name
  | fileAdded space name quick opened =>
    change Registered ((ProgramSpace.addObjectFile space name quick).apply world.library).2
    rw [ProgramSpace.apply_addObjectFile_of_open opened]
    exact registered.withFile name quick opened
  | fileStruck space file member =>
    change Registered ((ProgramSpace.strike space file).apply world.library).2
    rw [ProgramSpace.apply_strike_of_mem member]
    exact registered.strike space file
  | fileDetached file gone => exact registered.detach gone
  | spaceClosed space opened => exact registered.markDisposed space
  | spaceForgotten space disposed empty present =>
    exact registered.unregister disposed empty present

theorem Move.layer (move : Move license world after) (sound : Sound world.library) :
    Layer after.library := by
  have layer := sound.layer
  cases move with
  | aside aside => exact layer.congr aside.unmoved.layer
  | relogged relogging => exact relogging.layer sound
  | spaceCreated name =>
    exact layer.congr ⟨fun _ => rfl, fun _ => rfl, rfl, rfl, Nat.le_refl _⟩
  | fileAdded space name quick opened =>
    change Layer ((ProgramSpace.addObjectFile space name quick).apply world.library).2
    rw [ProgramSpace.apply_addObjectFile_of_open opened]
    exact layer.withFile space name quick
  | fileStruck space file member =>
    change Layer ((ProgramSpace.strike space file).apply world.library).2
    rw [ProgramSpace.apply_strike_of_mem member]
    exact layer.congr ⟨fun _ => rfl, fun _ => rfl, rfl, rfl, Nat.le_refl _⟩
  | fileDetached file gone => exact layer.detach file
  | spaceClosed space opened =>
    exact layer.congr ⟨fun _ => rfl, fun _ => rfl, rfl, rfl, Nat.le_refl _⟩
  | spaceForgotten space disposed empty present =>
    exact layer.congr ⟨fun _ => rfl, fun _ => rfl, rfl, rfl, Nat.le_refl _⟩

theorem Move.sound (move : Move license world after) (sound : Sound world.library) :
    Sound after.library :=
  ⟨move.registered sound, move.layer sound⟩

theorem Path.sound (path : Path license world after) (sound : Sound world.library) :
    Sound after.library := by
  induction path with
  | refl => exact sound
  | tail _ move ih => exact move.sound ih

end ReaderTrace
