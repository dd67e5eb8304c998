import ReaderTrace.Proofs.BaseTable
import ReaderTrace.Proofs.Completeness
import ReaderTrace.Proofs.Coupling

/-!
What is still recorded when the debug setting is off.

As long as clients install no logging themselves, turning the setting off takes
the logging off every live object file, and its active table is again the one
that the gated setter was given. That table may be a shadow which a client has
read while the setting was on. A shadow is not told that the setting has
changed, and each of its functions goes on to write its record first.
-/

namespace ReaderTrace

open Routine

/-- Whether an operation puts logging on object files only where the debug
setting says so. -/
def Operation.Indirect : Operation → Prop
  | .install _ => False
  | _ => True

/-- Clients install no logging themselves. -/
def Rules.indirect : Rules :=
  Rules.only Operation.Indirect

/-! ### Entries while the setting is off -/

/-- While the debug setting is off no listed object file has an entry. -/
def Cleared (library : Library) : Prop :=
  library.debug = false → ∀ file, library.Lists file → library.debugDataOf? file = none

section Logging

variable {library : Library} {other : ObjectFileId}

theorem debug_uninstall (library : Library) (file : ObjectFileId) :
    ((Logging.uninstall file).apply library).2.debug = library.debug := by
  rcases Logging.uninstall_cases library file with same | ⟨data, _, _, applied⟩
  · rw [same]
  · rw [applied]
    rfl

theorem debugDataOf?_unlogged_of_none (file : ObjectFileId) (table : TableRef)
    (clean : library.debugDataOf? other = none) :
    (library.unlogged file table).debugDataOf? other = none := by
  rw [Library.debugDataOf?_unlogged]
  split
  · rfl
  · exact clean

theorem debugDataOf?_uninstall_of_none (file : ObjectFileId)
    (clean : library.debugDataOf? other = none) :
    ((Logging.uninstall file).apply library).2.debugDataOf? other = none := by
  rcases Logging.uninstall_cases library file with same | ⟨data, _, _, applied⟩
  · rw [same]
    exact clean
  · rw [applied]
    exact debugDataOf?_unlogged_of_none file data.base clean

theorem debugDataOf?_release_of_none (file : ObjectFileId)
    (clean : library.debugDataOf? other = none) :
    ((Logging.release file).apply library).2.debugDataOf? other = none := by
  rcases Logging.release_cases library file with same | ⟨data, _, _, applied⟩
  · rw [same]
    exact clean
  · rw [applied]
    exact debugDataOf?_unlogged_of_none file data.base clean

end Logging

variable {license : Operation → Prop} {world after : World}

theorem Quiet.cleared (quiet : Quiet world after) (sound : Sound world.library)
    (cleared : Cleared world.library) : Cleared after.library := by
  intro off file listed
  rw [(quiet.same file).entry]
  rw [quiet.debug] at off
  rcases quiet.listed file listed with before | missing
  · exact cleared off file before
  · cases entry : world.library.debugDataOf? file with
    | none => rfl
    | some data =>
      have active := sound.layer.isSome_tableOf? entry
      rw [missing] at active
      cases active

theorem Relogging.cleared (indirect : ∀ operation, license operation → operation.Indirect)
    (relogging : Relogging license world after) (sound : Sound world.library)
    (cleared : Cleared world.library) : Cleared after.library := by
  intro off file listed
  have before := relogging.listed sound listed
  cases relogging with
  | released other gone =>
    change ((Logging.release other).apply world.library).2.debug = false at off
    rw [debug_release] at off
    exact debugDataOf?_release_of_none other (cleared off file before)
  | installed other licensed => exact absurd (indirect _ licensed) not_false
  | uninstalled other licensed =>
    change ((Logging.uninstall other).apply world.library).2.debug = false at off
    rw [debug_uninstall] at off
    exact debugDataOf?_uninstall_of_none other (cleared off file before)
  | tableSet other table licensed known accepted =>
    have afterEq := (sound.layer.setTable_accepted accepted).2
    change ((Logging.setTable other table).apply world.library).2.debug = false at off
    change ((Logging.setTable other table).apply world.library).2.debugDataOf? file = none
    rw [afterEq] at off ⊢
    rw [debug_reset] at off
    unfold Logging.reset
    rw [off]
    exact debugDataOf?_unlogged_of_none other table (cleared off file before)
  | debugSet value =>
    cases value with
    | true =>
      change ((Logging.setDebug true).apply world.library).2.debug = false at off
      rw [sound.apply_setDebug] at off
      change (Logging.walked true _ _).debug = false at off
      rw [debug_walked] at off
      cases off
    | false =>
      exact sound.debugDataOf?_setDebug_false (sound.registered.mem_live_iff.mpr before)

theorem Begun.cleared (indirect : ∀ operation, license operation → operation.Indirect)
    (begun : Begun license world) : Cleared world.library := by
  induction begun with
  | refl => exact fun _ _ _ => rfl
  | tail earlier move ih =>
    rcases move.quiet_or_relogged with quiet | relogging
    · exact quiet.cleared (Begun.sound earlier) ih
    · exact relogging.cleared indirect (Begun.sound earlier) ih

/-! ### Calls with and without records -/

/-- Nobody is asked to write a record. -/
def Unrecorded (routine : Routine Value) (now : World) : Prop :=
  Accounts (fun _ => True) (fun _ asked => ¬asked.request.IsRecord) routine [] now
    fun _ _ _ => True

/-- Something is asked, and the first that is asked is to write a record. -/
def Recorded (routine : Routine Value) (now : World) : Prop :=
  Accounts (fun _ => True) (fun rounds asked => rounds = [] → asked.request.IsRecord) routine []
    now fun _ rounds _ => rounds ≠ []

theorem unrecorded_client (id : FunctionId) (receiver : Option Receiver) (arguments : List Value)
    (now : World) : Unrecorded ((TableFunction.client id).invoke receiver arguments) now := by
  constructor
  · exact not_false
  · intro reply later _
    cases reply <;> exact trivial

/-- Once something has been asked, what is asked next does not matter. -/
private theorem accounts_begun {α : Type} (routine : Routine α) {rounds : List Round} {now : World}
    (begun : rounds ≠ []) :
    Accounts (fun _ => True) (fun rounds asked => rounds = [] → asked.request.IsRecord) routine
      rounds now fun _ after _ => after ≠ [] := by
  induction routine generalizing rounds now with
  | done outcome => exact begun
  | read next ih => exact ih now.library begun
  | write library next ih => exact ih begun
  | call request next ih =>
    constructor
    · exact fun empty => absurd empty begun
    · intro reply later _
      exact ih reply (List.append_ne_nil_of_right_ne_nil rounds (List.cons_ne_nil _ _))
  | mark milestone next ih => exact ih begun

theorem recorded_forward (how : Forwarding) (target : TableFunction) (receiver : Option Receiver)
    (arguments : List Value) (now : World) :
    Recorded ((TableFunction.forward how target).invoke receiver arguments) now := by
  constructor
  · exact fun _ => trivial
  · intro reply later _
    exact accounts_begun _ (List.cons_ne_nil _ _)

/-! ### The statement about runs -/

/-- While the debug setting is off, the active table of a live object file is the
one that was set last, and no logging is on it. Whatever is called through the
table is a client's own function, and the call is not recorded, if the table is a
reader's; if it is a shadow, the function forwards, and its call is recorded all the
same. -/
theorem Reachable.unrecorded_iff_real {moment : Moment} (reachable : Reachable .indirect moment)
    (off : moment.library.debug = false) {file : ObjectFileId} {table : TableRef}
    (live : moment.library.Lists file) (active : moment.library.tableOf? file = some table) :
    moment.lastTable file = some table ∧ moment.library.debugDataOf? file = none ∧
    ∀ method receiver function,
      moment.library.method? table method = some (receiver, function) →
      ∀ given arguments,
        (table.Real ∧ (∃ client, function = .client client) ∧
          Unrecorded (function.invoke given arguments) moment.toWorld) ∨
        (¬table.Real ∧
          (∃ host inner target,
            function = .forward (moment.library.forwarding host method inner) target) ∧
          Recorded (function.invoke given arguments) moment.toWorld) := by
  have begun : Begun Operation.Indirect moment.toWorld :=
    reachable.begun fun _ operation permitted => permitted operation rfl
  have clean := begun.cleared (fun _ indirect => indirect) off file live
  have kept := begun.kept file
  rw [moment.library.baseOf?_of_no_entry clean, active] at kept
  refine ⟨kept.symm, clean, ?_⟩
  intro method receiver function looked given arguments
  obtain ⟨real, client, rfl⟩ | ⟨shadowed, host, inner, target, rfl⟩ := begun.own_or_forwards looked
  · exact Or.inl ⟨real, ⟨client, rfl⟩, unrecorded_client client given arguments moment.toWorld⟩
  · exact Or.inr ⟨shadowed, ⟨host, inner, target, rfl⟩,
      recorded_forward _ target given arguments moment.toWorld⟩

/-- An object file whose table has functions is logged. -/
def Moment.initialized : Moment :=
  let made := (Moment.initial.start (.createSpace none)).start (.newReaderTable .initializing)
  let added := made.start (.addObjectFile { index := 0 } "a.out" none)
  (added.start (.setTable { index := 0 } (.reader { index := 0 }))).start (.setDebug true)

theorem reachable_initialized {rules : Rules}
    (may : ∀ {moment : Moment} {operation : Operation}, moment.pending = [] → operation.Indirect →
      rules moment (.started operation)) : Reachable rules Moment.initialized := by
  have created : Reachable rules _ := .start (.createSpace none) .initial trivial (may rfl trivial)
  have made : Reachable rules _ :=
    .start (.newReaderTable .initializing) created (fun _ found => by cases found)
      (may rfl trivial)
  have added : Reachable rules _ :=
    .start (.addObjectFile { index := 0 } "a.out" none) made trivial (may rfl trivial)
  have set : Reachable rules _ :=
    .start (.setTable { index := 0 } (.reader { index := 0 })) added Nat.zero_lt_one
      (may rfl trivial)
  exact .start (.setDebug true) set trivial (may rfl trivial)

/-- A client hands the active shadow to the setter before the debug setting is
turned off. -/
def Moment.echoing : Moment :=
  (Moment.initialized.start (.setTable { index := 0 } (.shadow { index := 0 }))).start
    (.setDebug false)

theorem reachable_echoing : Reachable .indirect Moment.echoing := by
  have handed : Reachable .indirect _ :=
    .start (.setTable { index := 0 } (.shadow { index := 0 }))
      (reachable_initialized fun _ => Rules.only_started) Nat.zero_lt_one
      (Rules.only_started trivial)
  exact .start (.setDebug false) handed trivial (Rules.only_started trivial)

/-- The same function of the reader, called through its own table and through the
shadow that was handed in. -/
theorem unrecorded_iff_real_muted :
    Unrecorded ((TableFunction.client { index := 0 }).invoke none [.objectFile { index := 0 }])
      (Moment.initialized.start (.setDebug false)).toWorld ∧
    ∃ how target, Recorded ((TableFunction.forward how target).invoke none
      [.objectFile { index := 0 }]) Moment.echoing.toWorld := by
  constructor
  · have muted : Reachable .indirect (Moment.initialized.start (.setDebug false)) :=
      .start (.setDebug false) (reachable_initialized fun _ => Rules.only_started) trivial
        (Rules.only_started trivial)
    have live : (Moment.initialized.start (.setDebug false)).library.Lists { index := 0 } :=
      ⟨{ index := 0 }, by decide⟩
    obtain ⟨_, _, calls⟩ := muted.unrecorded_iff_real rfl live rfl
    rcases calls (some .newInit) _ _ rfl none [.objectFile { index := 0 }] with
      ⟨_, _, unrecorded⟩ | ⟨shadowed, _⟩
    · exact unrecorded
    · exact absurd ⟨_, rfl⟩ shadowed
  · have live : Moment.echoing.library.Lists { index := 0 } := ⟨{ index := 0 }, by decide⟩
    obtain ⟨_, _, calls⟩ := reachable_echoing.unrecorded_iff_real rfl live rfl
    rcases calls (some .newInit) _ _ rfl none [.objectFile { index := 0 }] with
      ⟨⟨_, impossible⟩, _⟩ | ⟨_, _, recorded⟩
    · cases impossible
    · exact ⟨_, _, recorded⟩

/-- The setting is off and the file is not logged, yet a call through its active
table begins with a record. -/
theorem echoing_records :
    Reachable .indirect Moment.echoing ∧ Moment.echoing.pending = [] ∧
    Moment.echoing.library.debug = false ∧ Moment.echoing.library.Lists { index := 0 } ∧
    Moment.echoing.library.isInstalled { index := 0 } = false ∧
    ∃ frame, (Moment.echoing.start (.callMethod (.active { index := 0 }) (some .newInit)
        [.objectFile { index := 0 }] false)).pending = [frame] ∧
      frame.request = .write .console "sf->newInit (a.out)" := by
  exact ⟨reachable_echoing, rfl, rfl, ⟨{ index := 0 }, by decide⟩, rfl, _, rfl, rfl⟩

end ReaderTrace
