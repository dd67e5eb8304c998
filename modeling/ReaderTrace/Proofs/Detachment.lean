import ReaderTrace.Proofs.Dialogue
import ReaderTrace.Proofs.Removal

/-!
What happens to an object file after its removal.

A removal that ends normally detaches the file. The library assigns the active
table of attached files only, and it walks over listed files only; no operation
attaches or lists a file again. The table of a detached file is therefore the one
that it was removed with, and whoever asks to change it is refused, by one
assertion or another.
-/

namespace ReaderTrace

open Routine

variable {license : Operation → Prop} {world : World} {file : ObjectFileId}

/-! ### What is refused -/

/-- The edit ends with an assertion. -/
def Edit.Asserts {α : Type} (change : Edit α) (library : Library) : Prop :=
  ∃ cause, (change.apply library).1 = .error (.fault (.assertion cause))

section Refusals

variable {library : Library}

theorem asserts_install (detached : library.Detached file) :
    (Logging.install file).Asserts library := by
  unfold Edit.Asserts
  rw [Logging.apply_install, detached.2]
  cases library.isInstalled file with
  | true => exact ⟨_, rfl⟩
  | false => cases library.tableOf? file <;> exact ⟨_, rfl⟩

theorem asserts_uninstall (detached : library.Detached file) :
    (Logging.uninstall file).Asserts library := by
  unfold Edit.Asserts
  rw [Logging.apply_uninstall, detached.2]
  cases library.isInstalled file with
  | true => cases library.debugDataOf? file <;> exact ⟨_, rfl⟩
  | false => exact ⟨_, rfl⟩

theorem Layer.asserts_setTable (layer : Layer library) (detached : library.Detached file)
    (table : TableRef) : (Logging.setTable file table).Asserts library := by
  unfold Edit.Asserts
  rw [layer.apply_setTable, detached.2]
  cases library.isInstalled file && !library.debug <;> exact ⟨_, rfl⟩

end Refusals

/-! ### The state of a removed file -/

/-- In `later` the object file is as it was in `library`, and it stays so. -/
structure Frozen (library later : Library) (file : ObjectFileId) : Prop where
  detached : later.Detached file
  table : later.tableOf? file = library.tableOf? file
  unlisted : ∀ space, file ∉ later.owned space
  /-- Neither the table nor the entry depends on the debug setting. -/
  setDebug : ∀ value, SameAt later ((Logging.setDebug value).apply later).2 file
  setTable : ∀ table, (Logging.setTable file table).Asserts later
  install : (Logging.install file).Asserts later
  uninstall : (Logging.uninstall file).Asserts later

theorem Library.Detached.frozen {library later : Library} {settles : Prop}
    (detached : library.Detached file) (rewritten : Rewritten settles library later)
    (sound : Sound later) : Frozen library later file := by
  obtain ⟨still, tableEq⟩ := Rewritten.detached rewritten detached
  have gone := still.gone sound.registered
  refine ⟨still, tableEq, fun space member => gone.2 ⟨space, member⟩, ?_,
    sound.layer.asserts_setTable still, asserts_install still, asserts_uninstall still⟩
  intro value
  have notLive : file ∉ later.live := fun member => gone.2 (sound.registered.mem_live_iff.mp member)
  obtain ⟨record, entry⟩ := (sound.reconciles value).others file notLive
  constructor
  · unfold Library.tableOf?
    rw [record]
  · exact entry

/-! ### The removal -/

/-- A removal that ends normally leaves the file detached, whatever the clients do
that it calls. -/
theorem follows_detachment {space : SpaceId} (begun : Begun license world) :
    Follows (course license) (ProgramSpace.removeObjectFile space file) world world
      fun outcome finish => outcome = .ok () →
        Course license world finish ∧ finish.library.Detached file := by
  refine follows_bind.mpr ?_
  change Afterwards _ _ _ _ ((ProgramSpace.strike space file).apply world.library).1
    { world with library := ((ProgramSpace.strike space file).apply world.library).2 }
  by_cases member : file ∈ world.library.owned space
  · rw [ProgramSpace.apply_strike_of_mem member]
    change Follows _ (Event.post destroyedEvent (.objectFile file) >>= fun _ =>
      Routine.edit (Edit.detach file)) world (world.withoutFile space file) _
    have moved : Course license world (world.withoutFile space file) :=
      Course.of_move (Move.withoutFile member) fun _ registered => registered
    have gone : (world.withoutFile space file).library.Gone file :=
      begun.sound.registered.gone_struck member
    have announces := honours_announce (begun.trans moved.path) gone
    refine Follows.since moved (follows_bind.mpr (announces.mono ?_))
    intro outcome later reached
    cases outcome with
    | error raised => exact fun impossible => by cases impossible
    | ok _ =>
      have goneLater := (Path.progress reached.path).gone file gone
      have detaching : Course license later (later.after (Edit.detach file)) :=
        Course.of_move (.fileDetached file goneLater) fun _ registered => registered
      exact fun _ => ⟨moved.trans (Course.trans reached detaching), detached_detach goneLater.1⟩
  · rw [ProgramSpace.apply_strike_of_notMem member]
    exact fun impossible => by cases impossible

/-- The same for the operation that removes a file, as its dialogue shows it. -/
theorem conducts_removeObjectFile {space : SpaceId} (registered : Registered world.library) :
    Conducts (fun _ _ _ => True) (Operation.removeObjectFile space file).routine [] world
      fun outcome _ finish => outcome = .ok .nothing → finish.library.Detached file := by
  have removing : Conducts (fun _ _ _ => True) (ProgramSpace.removeObjectFile space file) [] world
      fun outcome _ finish => outcome = .ok () → finish.library.Detached file := by
    change Conducts _ (Routine.edit (ProgramSpace.strike space file) >>= _) _ _ _
    apply conducts_edit
    · intro _ struck
      have member : file ∈ world.library.owned space := by
        apply Classical.byContradiction
        intro unlisted
        rw [ProgramSpace.apply_strike_of_notMem unlisted] at struck
        cases struck
      have known : file.index < (world.withoutFile space file).library.objectFiles.length :=
        world.library.lt_of_isAttached (registered.attached space file member)
      have announced : (world.after (ProgramSpace.strike space file)).note
          (.reached (.destroyed file)) = world.withoutFile space file := by
        unfold World.after World.withoutFile
        rw [ProgramSpace.apply_strike_of_mem member]
      change Conducts _ (Event.post destroyedEvent (.objectFile file) >>= fun _ =>
        Routine.edit (Edit.detach file)) []
          ((world.after (ProgramSpace.strike space file)).note (.reached (.destroyed file))) _
      rw [announced]
      apply ((conducts_any _).rewritten ((reworks_post _ _).rewrites _)).bind
      · intro _ exchanges later ⟨_, rewritten⟩
        have knownLater := Nat.lt_of_lt_of_le known (Rewritten.dwindles rewritten).files
        exact fun _ => detached_detach knownLater
      · exact fun _ _ _ _ impossible => by cases impossible
    · exact fun _ _ impossible => by cases impossible
  apply removing.bind
  · exact fun _ _ _ detached _ => detached rfl
  · exact fun _ _ _ _ impossible => by cases impossible

/-! ### Operations that are refused -/

/-- The operation ends at once, with an assertion. -/
def Moment.Asserts (moment : Moment) (operation : Operation) : Prop :=
  ∃ cause, (moment.start operation).history = moment.history ++
      [.started operation, .finished operation (.error (.fault (.assertion cause)))] ∧
    (moment.start operation).pending = moment.pending

/-- An operation ends where its first edit ends with an assertion. -/
theorem Moment.asserts_of_edit {moment : Moment} {operation : Operation} {α : Type}
    {change : Edit α} {next : α → Routine Result}
    (begins : operation.routine = (Routine.edit change).bind next)
    (asserts : change.Asserts moment.library) : moment.Asserts operation := by
  obtain ⟨cause, refused⟩ := asserts
  rw [Asserts, start_of_raised_edit begins refused]
  exact ⟨cause, rfl, rfl⟩

/-- From the moment on the object file stays as it is, and all that would change its
table or its logging is refused. -/
def Moment.Freezes (moment : Moment) (file : ObjectFileId) : Prop :=
  ∀ later, Meanwhile .free [] moment later →
    Frozen moment.library later.library file ∧
    (∀ table, later.Asserts (.setTable file table)) ∧ later.Asserts (.install file) ∧
      later.Asserts (.uninstall file)

theorem Reachable.freezes {moment : Moment} (reachable : Reachable .free moment)
    (detached : moment.library.Detached file) : moment.Freezes file := by
  intro later meanwhile
  have frozen := detached.frozen (meanwhile.rewritten reachable)
    (meanwhile.reachable reachable).begun_free.sound
  refine ⟨frozen, fun table => ?_, ?_, ?_⟩
  · exact Moment.asserts_of_edit (Routine.bind_assoc _ _ _) (frozen.setTable table)
  · exact Moment.asserts_of_edit rfl frozen.install
  · exact Moment.asserts_of_edit rfl frozen.uninstall

/-! ### The statement about runs -/

/-- Wherever in a run a removal is carried out, when it ends normally the object file
is detached, and from then on its table stays the same, no space lists it, changing
the debug setting leaves it alone, and setting a table for it, installing and
uninstalling end with an assertion. A client whose removal has returned normally,
and any client once a file is detached, finds it so at every later moment, whatever
is done in between. -/
theorem Reachable.removed_frozen {moment : Moment} (reachable : Reachable .free moment)
    (file : ObjectFileId) :
    (∀ during, Path (fun _ => True) moment.toWorld during → ∀ space,
      Follows (course fun _ => True) (ProgramSpace.removeObjectFile space file) during during
        fun outcome finish => outcome = .ok () → finish.library.Detached file ∧
          ∀ later, Path (fun _ => True) finish later →
            Frozen finish.library later.library file) ∧
    (∀ space exchanges removed,
      Dialogue .free (.removeObjectFile space file) moment exchanges removed →
      removed.history.getLast? = some (.finished (.removeObjectFile space file) (.ok .nothing)) →
      removed.Freezes file) ∧
    (moment.library.Detached file → moment.Freezes file) := by
  have begun := reachable.begun_free
  refine ⟨fun during path space => ?_, fun space exchanges removed dialogue finished => ?_,
    reachable.freezes⟩
  · have begunDuring : Begun (fun _ => True) during := begun.trans path
    apply (follows_detachment begunDuring).mono
    intro outcome finish detaches ok
    obtain ⟨course, detached⟩ := detaches ok
    refine ⟨detached, fun later further => ?_⟩
    have soundLater := Begun.sound ((begunDuring.trans course.path).trans further)
    exact detached.frozen (Path.rewritten further) soundLater
  · have conducts : Conducts (fun _ _ _ => True) (Operation.removeObjectFile space file).routine []
        (moment.note (.started (.removeObjectFile space file))) fun outcome _ finish =>
          outcome = .ok .nothing → finish.library.Detached file :=
      conducts_removeObjectFile begun.sound.registered
    obtain ⟨now, detached, removedEq⟩ :=
      (dialogue.standing reachable conducts).ended_of_finished finished
    apply (dialogue.reachable reachable).freezes
    rw [removedEq]
    exact detached rfl

/-- A logged file is removed and has its first table again. Logging is then asked for
in vain, and the debug setting is turned off and on. -/
theorem removed_frozen_logging :
    (Moment.logging.start (.removeObjectFile { index := 0 } { index := 0 })).library.tableOf?
        { index := 0 } = some (.reader { index := 0 }) ∧
    Frozen (Moment.logging.start (.removeObjectFile { index := 0 } { index := 0 })).library
      ((((Moment.logging.start (.removeObjectFile { index := 0 } { index := 0 })).start
        (.install { index := 0 })).start (.setDebug false)).start (.setDebug true)).library
      { index := 0 } := by
  have may : ∀ {moment : Moment} {happening : Happening}, Rules.free moment happening :=
    fun _ _ => trivial
  have reachable : Reachable .free Moment.logging := reachable_logging fun _ _ => trivial
  have removal : Dialogue .free (.removeObjectFile { index := 0 } { index := 0 }) Moment.logging []
      (Moment.logging.start (.removeObjectFile { index := 0 } { index := 0 })) :=
    .start trivial may
  have freezes := (reachable.removed_frozen { index := 0 }).2.1 _ _ _ removal rfl
  refine ⟨rfl, (freezes _ ?_).1⟩
  exact .start (.setDebug true) (.start (.setDebug false)
    (.start (.install { index := 0 }) .refl trivial may) trivial may) trivial may

end ReaderTrace
