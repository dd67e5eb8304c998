import ReaderTrace.Proofs.Frame
import ReaderTrace.Proofs.Representation

/-!
The debug setting against what is installed.

As long as clients leave the logging to the debug setting, a live object file
that has a table is logged exactly while the setting is on. The setter may then
assert that nothing is logged while the setting is off.
-/

namespace ReaderTrace

/-- If the file has a table, then it has an entry exactly when `value` says
so. -/
def Settled (value : Bool) (library : Library) (file : ObjectFileId) : Prop :=
  (library.tableOf? file).isSome = true → (library.debugDataOf? file).isSome = value

namespace Settled

variable {value : Bool} {library after : Library} {file other : ObjectFileId}

theorem congr (settled : Settled value library file) (same : SameAt library after file) :
    Settled value after file := by
  unfold Settled
  rw [same.table, same.entry]
  exact settled

theorem of_no_table (missing : library.tableOf? file = none) : Settled value library file := by
  intro present
  rw [missing] at present
  cases present

theorem reset (table : TableRef) :
    Settled library.debug (Logging.reset library file table) file := by
  intro _
  unfold Logging.reset
  cases library.debug with
  | true =>
    change (((library.unlogged file table).logged file table).debugDataOf? file).isSome = true
    rw [Library.debugDataOf?_logged, if_pos rfl]
    rfl
  | false =>
    change ((library.unlogged file table).debugDataOf? file).isSome = false
    rw [Library.debugDataOf?_unlogged, if_pos rfl]
    rfl

/-! ### The walk over the live object files -/

theorem reconciled_self : Settled value (Logging.reconciled value library file) file := by
  unfold Logging.reconciled
  cases active : library.tableOf? file with
  | none => exact of_no_table active
  | some base =>
    intro _
    cases entry : library.debugDataOf? file with
    | none =>
      cases value with
      | true =>
        change ((library.logged file base).debugDataOf? file).isSome = true
        rw [Library.debugDataOf?_logged, if_pos rfl]
        rfl
      | false =>
        change (library.debugDataOf? file).isSome = false
        rw [entry]
        rfl
    | some data =>
      cases value with
      | true =>
        change (library.debugDataOf? file).isSome = true
        rw [entry]
        rfl
      | false =>
        change ((library.unlogged file data.base).debugDataOf? file).isSome = false
        rw [Library.debugDataOf?_unlogged, if_pos rfl]
        rfl

theorem reconciled (settled : Settled value library file) :
    Settled value (Logging.reconciled value library other) file := by
  by_cases same : file = other
  · subst same
    exact reconciled_self
  · exact settled.congr (SameAt.reconciled value same)

theorem walked (settled : Settled value library file) (files : List ObjectFileId) :
    Settled value (Logging.walked value library files) file := by
  induction files generalizing library with
  | nil => exact settled
  | cons head rest ih => exact ih settled.reconciled

theorem walked_of_mem {files : List ObjectFileId} (member : file ∈ files) :
    Settled value (Logging.walked value library files) file := by
  induction files generalizing library with
  | nil => cases member
  | cons head rest ih =>
    rcases List.mem_cons.mp member with same | later
    · subst same
      exact walked reconciled_self rest
    · exact ih later

end Settled

theorem debug_walked (value : Bool) (library : Library) (files : List ObjectFileId) :
    (Logging.walked value library files).debug = library.debug := by
  induction files generalizing library with
  | nil => rfl
  | cons file rest ih =>
    refine (ih (Logging.reconciled value library file)).trans ?_
    unfold Logging.reconciled
    split
    · cases value <;> rfl
    · cases value <;> rfl
    · rfl

theorem debug_reset (library : Library) (file : ObjectFileId) (table : TableRef) :
    (Logging.reset library file table).debug = library.debug := by
  unfold Logging.reset
  split <;> rfl

theorem debug_release (library : Library) (file : ObjectFileId) :
    ((Logging.release file).apply library).2.debug = library.debug := by
  rcases Logging.release_cases library file with same | ⟨data, _, _, applied⟩
  · rw [same]
  · rw [applied]
    rfl

/-! ### The invariant -/

/-- Every listed object file is in step with the debug setting. -/
def InStep (library : Library) : Prop :=
  ∀ file, library.Lists file → Settled library.debug library file

theorem InStep.initial : InStep .initial := by
  intro file ⟨space, member⟩
  cases member

variable {license : Operation → Prop} {world after : World}

theorem Quiet.inStep (quiet : Quiet world after) (inStep : InStep world.library) :
    InStep after.library := by
  intro file listed
  have settled : Settled world.library.debug world.library file := by
    rcases quiet.listed file listed with listedBefore | missing
    · exact inStep file listedBefore
    · exact Settled.of_no_table missing
  rw [quiet.debug]
  exact settled.congr (quiet.same file)

theorem Relogging.listed (relogging : Relogging license world after)
    (sound : Sound world.library) {file : ObjectFileId} (listed : after.library.Lists file) :
    world.library.Lists file := by
  obtain ⟨space, member⟩ := listed
  rw [← Library.owned_bare, relogging.bare sound] at member
  exact ⟨space, member⟩

theorem Relogging.inStep (gated : ∀ operation, license operation → operation.Gated)
    (relogging : Relogging license world after) (sound : Sound world.library)
    (inStep : InStep world.library) : InStep after.library := by
  intro file listed
  have listedBefore := relogging.listed sound listed
  have settled := inStep file listedBefore
  cases relogging with
  | released other gone =>
    have different : file ≠ other := fun same => gone.2 (same ▸ listedBefore)
    have debugEq := debug_release world.library other
    change Settled ((Logging.release other).apply world.library).2.debug _ file
    rw [debugEq]
    exact settled.congr (SameAt.release different)
  | installed other licensed => exact absurd (gated _ licensed) not_false
  | uninstalled other licensed => exact absurd (gated _ licensed) not_false
  | tableSet other table licensed known accepted =>
    have afterEq := (sound.layer.setTable_accepted accepted).2
    change Settled ((Logging.setTable other table).apply world.library).2.debug
      ((Logging.setTable other table).apply world.library).2 file
    rw [afterEq, debug_reset]
    by_cases same : file = other
    · subst other
      exact Settled.reset table
    · exact settled.congr (SameAt.reset table same)
  | debugSet value =>
    have member := sound.registered.mem_live_iff.mpr listedBefore
    change Settled ((Logging.setDebug value).apply world.library).2.debug
      ((Logging.setDebug value).apply world.library).2 file
    rw [sound.apply_setDebug]
    change Settled (Logging.walked value _ _).debug _ file
    rw [debug_walked]
    exact Settled.walked_of_mem member

theorem Begun.inStep (gated : ∀ operation, license operation → operation.Gated)
    (begun : Begun license world) : InStep world.library := by
  induction begun with
  | refl => exact InStep.initial
  | tail earlier move ih =>
    rcases move.quiet_or_relogged with quiet | relogging
    · exact quiet.inStep ih
    · exact relogging.inStep gated (Begun.sound earlier) ih

/-! ### The statement about runs -/

theorem InStep.setTable_ok {library : Library} (inStep : InStep library) (sound : Sound library)
    {file : ObjectFileId} (live : library.Lists file) (table : TableRef) :
    ((Logging.setTable file table).apply library).1 = .ok () := by
  have attached := sound.registered.isAttached_of_lists live
  have allowed : (library.isInstalled file && !library.debug) = false := by
    rw [Library.isInstalled_eq]
    cases active : (library.tableOf? file).isSome with
    | false => rfl
    | true =>
      rw [inStep file live active]
      cases library.debug <;> rfl
  rw [sound.layer.apply_setTable, if_neg (by simp [allowed]), if_pos attached]

/-- Without direct installs and uninstalls, a live object file that has a table
is logged exactly while the debug setting is on, one without a table has no
entry, and the setter succeeds. -/
theorem Reachable.installed_iff_debug {moment : Moment} (reachable : Reachable .gated moment)
    {file : ObjectFileId} (live : moment.library.Lists file) :
    ((moment.library.tableOf? file).isSome = true →
      (moment.library.isInstalled file = true ↔ moment.library.debug = true)) ∧
    (moment.library.tableOf? file = none → moment.library.debugDataOf? file = none) ∧
    ∀ table, ((Logging.setTable file table).apply moment.library).1 = .ok () := by
  have begun : Begun Operation.Gated moment.toWorld :=
    reachable.begun fun _ operation permitted => permitted operation rfl
  have inStep := begun.inStep fun _ gated => gated
  refine ⟨?_, ?_, inStep.setTable_ok begun.sound live⟩
  · intro active
    rw [Library.isInstalled_eq, active, inStep file live active, Bool.true_and]
  · intro missing
    cases entry : moment.library.debugDataOf? file with
    | none => rfl
    | some data =>
      have active := begun.sound.layer.isSome_tableOf? entry
      rw [missing] at active
      cases active

theorem installed_iff_debug_logging :
    (Moment.logging.library.isInstalled { index := 0 } = true ↔
      Moment.logging.library.debug = true) ∧
    ∀ table, ((Logging.setTable { index := 0 } table).apply Moment.logging.library).1 = .ok () := by
  have facts := (reachable_logging fun _ gated => gated).installed_iff_debug lists_logging
  exact ⟨facts.1 rfl, facts.2.2⟩

end ReaderTrace
