import ReaderTrace.Proofs.Origin
import ReaderTrace.Proofs.Reconciliation

/-!
The exact outcome of the three operations on the table of a live object file.

Each of them is one edit behind one condition on the table, the entry and the
debug setting. Every other assertion on its way holds for a live file, because
an entry always has an active table over it and a listed file can be given one.
Where the condition holds, the edit goes through; otherwise it leaves the
library as it was.
-/

namespace ReaderTrace

/-! ### Operations that call nobody -/

namespace Moment

/-- The operation ends at once and leaves `after`. It calls nobody, so no
record is written either. -/
def Yields (moment : Moment) (operation : Operation) (outcome : Except Raised Result)
    (after : Library) (reached : List Milestone) : Prop :=
  moment.start operation =
    { library := after
      history := moment.history ++
        .started operation :: (reached.map .reached ++ [.finished operation outcome])
      pending := moment.pending }

variable {moment : Moment} {operation : Operation} {after : Library}

theorem yields_of_raised {α : Type} {change : Edit α} {next : α → Routine Result}
    {raised : Raised} (begins : operation.routine = (Routine.edit change).bind next)
    (applied : change.apply moment.library = (.error raised, after)) :
    moment.Yields operation (.error raised) after [] := by
  have failed : (change.apply moment.library).1 = .error raised := by rw [applied]
  unfold Yields
  rw [start_of_raised_edit begins failed, applied]
  rfl

/-- An operation that is one edit and then a point of its history. -/
theorem yields_of_edit {change : Edit Unit} {reached : List Milestone}
    (performs : operation.routine = (Routine.edit change).bind fun _ =>
      reached.foldr Routine.mark (.done (.ok .nothing)))
    (applied : change.apply moment.library = (.ok (), after)) :
    moment.Yields operation (.ok .nothing) after reached := by
  have marked : ∀ (world : World), proceed operation moment.pending
      (reached.foldr Routine.mark (.done (.ok .nothing))) world =
        { library := world.library
          history := world.history ++ (reached.map .reached ++ [.finished operation (.ok .nothing)])
          pending := moment.pending } := by
    clear performs
    induction reached with
    | nil => intro world; rfl
    | cons milestone rest ih =>
      intro world
      refine (ih (world.note (.reached milestone))).trans ?_
      simp [World.note]
  unfold Yields start
  rw [performs]
  change proceed operation moment.pending
    ((Routine.done (change.apply moment.library).1).bind _)
    ((moment.note (.started operation)).after change) = _
  rw [applied]
  refine (marked _).trans ?_
  simp [World.note, World.after, applied]

end Moment

/-! ### What an operation on one object file can touch -/

/-- Nothing is different but the active table and the entry of one object file,
and the shadows that were added. The bare library holds the registry, the
address book, the stream and every flag. -/
structure Library.Confined (library after : Library) (file : ObjectFileId) : Prop where
  records : ∀ other, other ≠ file → after.objectFile? other = library.objectFile? other
  entries : ∀ other, other ≠ file → after.debugDataOf? other = library.debugDataOf? other
  debug : after.debug = library.debug
  rest : after.bare = library.bare
  shadows : library.shadows <+: after.shadows

namespace Library.Confined

variable {library after : Library} {file : ObjectFileId}

theorem of_sameAt (same : ∀ other, other ≠ file → SameAt library after other)
    (debug : after.debug = library.debug) (rest : after.bare = library.bare)
    (shadows : library.shadows <+: after.shadows) : library.Confined after file where
  records := fun other different => objectFile?_of_bare rest (same other different).table
  entries := fun other different => (same other different).entry
  debug := debug
  rest := rest
  shadows := shadows

theorem logged (library : Library) (file : ObjectFileId) (base : TableRef) :
    library.Confined (library.logged file base) file :=
  of_sameAt (fun _ different => SameAt.logged base different) rfl (library.bare_logged file base)
    (List.prefix_append _ _)

theorem unlogged (library : Library) (file : ObjectFileId) (table : TableRef) :
    library.Confined (library.unlogged file table) file :=
  of_sameAt (fun _ different => SameAt.unlogged table different) rfl
    (library.bare_unlogged file table) List.prefix_rfl

theorem reset (library : Library) (file : ObjectFileId) (table : TableRef) :
    library.Confined (Logging.reset library file table) file := by
  refine of_sameAt (fun _ different => SameAt.reset table different) ?_
    (Logging.bare_reset library file table) ?_
  · unfold Logging.reset
    split <;> rfl
  · unfold Logging.reset
    split
    · exact List.prefix_append _ _
    · exact List.prefix_rfl

end Library.Confined

/-! ### The base table with a shadow over it, and without one -/

namespace Library

/-- Logging is on `file` over `base`, through one shadow that was not there
before. -/
structure Wrapped (library after : Library) (file : ObjectFileId) (base : TableRef) : Prop where
  active : after.tableOf? file = some library.nextShadow
  entry : after.debugDataOf? file = some { base := base, shadow := library.nextShadow }
  shadows : after.shadows = library.shadows ++ [Shadow.build library base file]

/-- The active table of `file` is `base` itself, and no shadow is new. -/
structure Unwrapped (library after : Library) (file : ObjectFileId) (base : TableRef) : Prop where
  active : after.tableOf? file = some base
  clean : after.debugDataOf? file = none
  shadows : after.shadows = library.shadows

variable {library : Library} {file : ObjectFileId}

theorem wrapped_logged (base : TableRef) (attached : library.isAttached file = true) :
    library.Wrapped (library.logged file base) file base where
  active := library.tableOf?_logged_self base attached
  entry := by rw [debugDataOf?_logged, if_pos rfl]
  shadows := rfl

theorem unwrapped_unlogged (table : TableRef) (attached : library.isAttached file = true) :
    library.Unwrapped (library.unlogged file table) file table where
  active := library.tableOf?_unlogged_self table attached
  clean := by rw [debugDataOf?_unlogged, if_pos rfl]
  shadows := rfl

/-- A shadow of a table does not depend on what is active. -/
private theorem build_unlogged (library : Library) (file : ObjectFileId) (table : TableRef) :
    Shadow.build (library.unlogged file table) table file = Shadow.build library table file := by
  have same : SameTable library (library.unlogged file table) table := by
    cases table with
    | reader id => exact ⟨fun _ => rfl, rfl⟩
    | shadow id => exact ⟨fun _ => rfl, rfl⟩
  exact same.build (debugName_of_bare (library.bare_unlogged file table) file)

theorem wrapped_reset (table : TableRef) (attached : library.isAttached file = true)
    (on : library.debug = true) :
    library.Wrapped (Logging.reset library file table) file table := by
  have stillAttached : (library.unlogged file table).isAttached file = true := by
    rw [isAttached_unlogged]
    exact attached
  have wrapped := wrapped_logged table stillAttached
  unfold Logging.reset
  rw [if_pos on]
  refine ⟨wrapped.active, wrapped.entry, ?_⟩
  rw [← library.build_unlogged file table]
  exact wrapped.shadows

theorem unwrapped_reset (table : TableRef) (attached : library.isAttached file = true)
    (off : library.debug = false) :
    library.Unwrapped (Logging.reset library file table) file table := by
  unfold Logging.reset
  rw [off]
  exact unwrapped_unlogged table attached

end Library

/-! ### The three edits on a live object file -/

namespace Sound

variable {library : Library} {file : ObjectFileId}

theorem isInstalled_iff_entry (sound : Sound library) :
    library.isInstalled file = true ↔ (library.debugDataOf? file).isSome = true := by
  rw [sound.layer.isInstalled_eq_has]
  rfl

theorem apply_install_of_table (sound : Sound library) (live : library.Lists file)
    {base : TableRef} (active : library.tableOf? file = some base)
    (clean : library.debugDataOf? file = none) :
    (Logging.install file).apply library = (.ok (), library.logged file base) := by
  have attached := sound.registered.isAttached_of_lists live
  rw [Logging.apply_install, library.isInstalled_of_no_entry clean, active, attached]
  rfl

theorem apply_install_of_entry (sound : Sound library) {data : DebugData}
    (entry : library.debugDataOf? file = some data) :
    (Logging.install file).apply library =
      (.error (.fault (.assertion (.loggingInstalled (library.debugName file)))), library) := by
  have installed : library.isInstalled file = true :=
    sound.isInstalled_iff_entry.mpr (by rw [entry]; rfl)
  rw [Logging.apply_install, if_pos installed]

theorem apply_uninstall_of_entry (sound : Sound library) (live : library.Lists file)
    {data : DebugData} (entry : library.debugDataOf? file = some data) :
    (Logging.uninstall file).apply library = (.ok (), library.unlogged file data.base) := by
  have attached := sound.registered.isAttached_of_lists live
  have installed : library.isInstalled file = true :=
    sound.isInstalled_iff_entry.mpr (by rw [entry]; rfl)
  rw [Logging.apply_uninstall, if_pos installed, entry, attached]
  rfl

theorem apply_setTable_of_live (sound : Sound library) (live : library.Lists file)
    (table : TableRef) :
    (Logging.setTable file table).apply library =
      if (library.debugDataOf? file).isSome = true ∧ library.debug = false then
        (.error (.fault (.assertion (.loggingInstalledWhileOff (library.debugName file)))), library)
      else (.ok (), Logging.reset library file table) := by
  have attached := sound.registered.isAttached_of_lists live
  have condition : (library.isInstalled file && !library.debug) = true ↔
      (library.debugDataOf? file).isSome = true ∧ library.debug = false := by
    rw [Bool.and_eq_true, sound.isInstalled_iff_entry, Bool.not_eq_true']
  rw [sound.layer.apply_setTable, if_pos attached]
  by_cases refused : (library.debugDataOf? file).isSome = true ∧ library.debug = false
  · rw [if_pos refused, if_pos (condition.mpr refused)]
  · rw [if_neg refused, if_neg fun holds => refused (condition.mp holds)]

end Sound

/-! ### The statement about runs -/

/-- An operation that goes through exactly when `condition` holds. Then it
leaves a library with `effect` and reaches the milestones; otherwise it raises
the assertion `cause` and changes nothing. -/
structure Moment.Guarded (moment : Moment) (operation : Operation) (file : ObjectFileId)
    (condition : Prop) (reached : List Milestone) (effect : Library → Prop)
    (cause : Assertion) : Prop where
  performed : condition → ∃ after, moment.Yields operation (.ok .nothing) after reached ∧
    effect after ∧ moment.library.Confined after file
  refused : ¬condition →
    moment.Yields operation (.error (.fault (.assertion cause))) moment.library []

section Guarded

variable {moment : Moment} {file : ObjectFileId}

private theorem guarded_install (sound : Sound moment.library) (live : moment.library.Lists file) :
    moment.Guarded (.install file) file
      ((moment.library.tableOf? file).isSome = true ∧ moment.library.debugDataOf? file = none) []
      (fun after => ∃ base, moment.library.tableOf? file = some base ∧
        moment.library.Wrapped after file base)
      (if (moment.library.debugDataOf? file).isSome then
        .loggingInstalled (moment.library.debugName file)
      else .noTableToLog (moment.library.debugName file)) := by
  have attached := sound.registered.isAttached_of_lists live
  constructor
  · intro ⟨present, clean⟩
    obtain ⟨base, active⟩ := Option.isSome_iff_exists.mp present
    refine ⟨moment.library.logged file base, ?_, ⟨base, active, ?_⟩,
      .logged moment.library file base⟩
    · exact Moment.yields_of_edit rfl (sound.apply_install_of_table live active clean)
    · exact Library.wrapped_logged base attached
  · intro refused
    cases entry : moment.library.debugDataOf? file with
    | some data => exact Moment.yields_of_raised rfl (sound.apply_install_of_entry entry)
    | none =>
      have missing : moment.library.tableOf? file = none := by
        cases active : moment.library.tableOf? file with
        | none => rfl
        | some base => exact absurd ⟨by rw [active]; rfl, entry⟩ refused
      have applied : (Logging.install file).apply moment.library =
          (.error (.fault (.assertion (.noTableToLog (moment.library.debugName file)))),
            moment.library) := by
        rw [Logging.apply_install, moment.library.isInstalled_of_no_entry entry, missing]
        rfl
      exact Moment.yields_of_raised rfl applied

private theorem guarded_uninstall (sound : Sound moment.library)
    (live : moment.library.Lists file) :
    moment.Guarded (.uninstall file) file ((moment.library.debugDataOf? file).isSome = true) []
      (fun after => ∃ data, moment.library.debugDataOf? file = some data ∧
        moment.library.Unwrapped after file data.base)
      (.loggingNotInstalled (moment.library.debugName file)) := by
  have attached := sound.registered.isAttached_of_lists live
  constructor
  · intro present
    obtain ⟨data, entry⟩ := Option.isSome_iff_exists.mp present
    refine ⟨moment.library.unlogged file data.base, ?_, ⟨data, entry, ?_⟩,
      .unlogged moment.library file data.base⟩
    · exact Moment.yields_of_edit rfl (sound.apply_uninstall_of_entry live entry)
    · exact Library.unwrapped_unlogged data.base attached
  · intro missing
    have clean : moment.library.debugDataOf? file = none := Option.not_isSome_iff_eq_none.mp missing
    have applied : (Logging.uninstall file).apply moment.library =
        (.error (.fault (.assertion (.loggingNotInstalled (moment.library.debugName file)))),
          moment.library) := by
      rw [Logging.apply_uninstall, moment.library.isInstalled_of_no_entry clean]
      rfl
    exact Moment.yields_of_raised rfl applied

private theorem guarded_setTable (sound : Sound moment.library)
    (live : moment.library.Lists file) (table : TableRef) :
    moment.Guarded (.setTable file table) file
      (¬((moment.library.debugDataOf? file).isSome = true ∧ moment.library.debug = false))
      [.tableSet file table]
      (fun after => if moment.library.debug then moment.library.Wrapped after file table
        else moment.library.Unwrapped after file table)
      (.loggingInstalledWhileOff (moment.library.debugName file)) := by
  have attached := sound.registered.isAttached_of_lists live
  have applied := sound.apply_setTable_of_live live table
  constructor
  · intro allowed
    rw [if_neg allowed] at applied
    refine ⟨Logging.reset moment.library file table,
      Moment.yields_of_edit (Routine.bind_assoc _ _ _) applied, ?_,
      .reset moment.library file table⟩
    cases debug : moment.library.debug with
    | true => exact Library.wrapped_reset table attached debug
    | false => exact Library.unwrapped_reset table attached debug
  · intro refused
    rw [if_pos (Decidable.not_not.mp refused)] at applied
    exact Moment.yields_of_raised (Routine.bind_assoc _ _ _) applied

end Guarded

/-- At every moment of every run, for every live object file: installing goes
through exactly when the file has a table and no entry, uninstalling exactly
when it has an entry, and setting a table unless it has an entry while the debug
setting is off. A table that was set is the base table afterwards, under one new
shadow if the setting is on and bare if it is off. Whatever comes of it, nothing
else is different and no record is written. -/
theorem Reachable.table_operations_exact {moment : Moment} (reachable : Reachable .free moment)
    {file : ObjectFileId} (live : moment.library.Lists file) :
    moment.Guarded (.install file) file
      ((moment.library.tableOf? file).isSome = true ∧ moment.library.debugDataOf? file = none) []
      (fun after => ∃ base, moment.library.tableOf? file = some base ∧
        moment.library.Wrapped after file base)
      (if (moment.library.debugDataOf? file).isSome then
        .loggingInstalled (moment.library.debugName file)
      else .noTableToLog (moment.library.debugName file)) ∧
    moment.Guarded (.uninstall file) file ((moment.library.debugDataOf? file).isSome = true) []
      (fun after => ∃ data, moment.library.debugDataOf? file = some data ∧
        moment.library.Unwrapped after file data.base)
      (.loggingNotInstalled (moment.library.debugName file)) ∧
    ∀ table, moment.Guarded (.setTable file table) file
      (¬((moment.library.debugDataOf? file).isSome = true ∧ moment.library.debug = false))
      [.tableSet file table]
      (fun after => if moment.library.debug then moment.library.Wrapped after file table
        else moment.library.Unwrapped after file table)
      (.loggingInstalledWhileOff (moment.library.debugName file)) := by
  have sound := reachable.begun_free.sound
  exact ⟨guarded_install sound live, guarded_uninstall sound live, guarded_setTable sound live⟩

/-- The file is logged over its base table, so an install is refused, and a
table that is set is the base of a second shadow. -/
theorem table_operations_exact_logging :
    Moment.logging.Yields (.install { index := 0 })
      (.error (.fault (.assertion (.loggingInstalled "a.out")))) Moment.logging.library [] ∧
    ∃ after, Moment.logging.Yields (.setTable { index := 0 } (.reader { index := 0 }))
        (.ok .nothing) after [.tableSet { index := 0 } (.reader { index := 0 })] ∧
      after.debugDataOf? { index := 0 } =
        some { base := .reader { index := 0 }, shadow := .shadow { index := 1 } } := by
  have facts := (reachable_logging fun _ _ => trivial).table_operations_exact lists_logging
  have logged : ¬((Moment.logging.library.tableOf? { index := 0 }).isSome = true ∧
      Moment.logging.library.debugDataOf? { index := 0 } = none) := by
    rw [entry_logging]
    exact fun holds => nomatch holds.2
  have allowed : ¬((Moment.logging.library.debugDataOf? { index := 0 }).isSome = true ∧
      Moment.logging.library.debug = false) := fun holds => nomatch holds.2
  obtain ⟨after, yields, wrapped, _⟩ := (facts.2.2 (.reader { index := 0 })).performed allowed
  have name : Moment.logging.library.debugName { index := 0 } = "a.out" := by decide +kernel
  refine ⟨?_, after, yields, ?_⟩
  · have refused := facts.1.refused logged
    rw [entry_logging, name] at refused
    exact refused
  · exact Library.Wrapped.entry wrapped

end ReaderTrace
