import ReaderTrace.Proofs.Toggle

/-!
The table under the logging.

The base table of an object file is always the one that the gated setter set
last, however often logging was put on it, moved over and taken off since. Each
way of taking the logging off makes exactly that table active again.
-/

namespace ReaderTrace

/-! ### The base table after logging -/

namespace Library

variable (library : Library)

theorem baseOf?_of_entry {file : ObjectFileId} {data : DebugData}
    (entry : library.debugDataOf? file = some data) : library.baseOf? file = some data.base := by
  unfold baseOf?
  rw [entry]

theorem baseOf?_of_no_entry {file : ObjectFileId} (clean : library.debugDataOf? file = none) :
    library.baseOf? file = library.tableOf? file := by
  unfold baseOf?
  rw [clean]

theorem baseOf?_remember_self (file : ObjectFileId) (base : TableRef) :
    (library.remember file base).baseOf? file = some base := by
  have entry := library.debugDataOf?_remember file file base
  rw [if_pos rfl] at entry
  exact baseOf?_of_entry _ entry

theorem baseOf?_logged_self (file : ObjectFileId) (base : TableRef) :
    (library.logged file base).baseOf? file = some base := by
  have entry := library.debugDataOf?_logged file file base
  rw [if_pos rfl] at entry
  exact baseOf?_of_entry _ entry

theorem baseOf?_unlogged_self {file : ObjectFileId} (table : TableRef)
    (attached : library.isAttached file = true) :
    (library.unlogged file table).baseOf? file = some table := by
  rw [baseOf?_of_no_entry _ (by rw [debugDataOf?_unlogged, if_pos rfl])]
  exact library.tableOf?_unlogged_self table attached

end Library

namespace Logging

variable {library : Library} (file other : ObjectFileId)

theorem baseOf?_install :
    ((install file).apply library).2.baseOf? other = library.baseOf? other := by
  by_cases same : other = file
  · subst other
    rcases install_cases library file with unchanged | ⟨base, bare, active, changed⟩
    · rw [unchanged]
    · have clean : library.debugDataOf? file = none := by
        rw [Library.isInstalled_eq, active] at bare
        simpa using bare
      rw [library.baseOf?_of_no_entry clean, active]
      rcases changed with ⟨_, applied⟩ | ⟨_, applied⟩
      · rw [applied]
        exact library.baseOf?_logged_self file base
      · rw [applied]
        exact library.baseOf?_remember_self file base
  · exact (SameAt.install same).baseOf?

theorem baseOf?_uninstall :
    ((uninstall file).apply library).2.baseOf? other = library.baseOf? other := by
  by_cases same : other = file
  · subst other
    rcases uninstall_cases library file with unchanged | ⟨data, entry, attached, applied⟩
    · rw [unchanged]
    · rw [applied, library.baseOf?_of_entry entry]
      exact library.baseOf?_unlogged_self data.base attached
  · exact (SameAt.uninstall same).baseOf?

theorem baseOf?_release :
    ((release file).apply library).2.baseOf? other = library.baseOf? other := by
  rw [apply_release]
  split
  · exact baseOf?_uninstall file other
  · rfl

theorem baseOf?_reset_self (table : TableRef) (attached : library.isAttached file = true) :
    (reset library file table).baseOf? file = some table := by
  unfold reset
  split
  · exact (library.unlogged file table).baseOf?_logged_self file table
  · exact library.baseOf?_unlogged_self table attached

theorem baseOf?_reconciled (value : Bool) (attached : library.isAttached file = true) :
    (reconciled value library file).baseOf? other = library.baseOf? other := by
  by_cases same : other = file
  · subst other
    unfold reconciled
    cases active : library.tableOf? file with
    | none => rfl
    | some base =>
      cases entry : library.debugDataOf? file with
      | none =>
        cases value with
        | true =>
          rw [library.baseOf?_of_no_entry entry, active]
          exact library.baseOf?_logged_self file base
        | false => rfl
      | some data =>
        cases value with
        | true => rfl
        | false =>
          rw [library.baseOf?_of_entry entry]
          exact library.baseOf?_unlogged_self data.base attached
  · exact (SameAt.reconciled value same).baseOf?

theorem baseOf?_walked (value : Bool) (files : List ObjectFileId)
    (attached : ∀ file ∈ files, library.isAttached file = true) :
    (walked value library files).baseOf? other = library.baseOf? other := by
  induction files generalizing library with
  | nil => rfl
  | cons head rest ih =>
    have headAttached := attached head (List.mem_cons_self ..)
    have restAttached :
        ∀ file ∈ rest, (reconciled value library head).isAttached file = true := by
      intro file member
      rw [isAttached_reconciled]
      exact attached file (List.mem_cons_of_mem _ member)
    exact (ih restAttached).trans (baseOf?_reconciled head other value headAttached)

end Logging

/-! ### The table that was set last -/

/-- The table that the gated setter set last for an object file. -/
def World.lastTable (world : World) (file : ObjectFileId) : Option TableRef :=
  (world.milestones.filterMap (Milestone.tableFor? file)).getLast?

namespace World

variable (world : World) (file : ObjectFileId)

theorem lastTable_of_milestones {after : World} {added : List Milestone}
    (milestones : after.milestones = world.milestones ++ added) :
    after.lastTable file =
      ((added.filterMap (Milestone.tableFor? file)).getLast?).or (world.lastTable file) := by
  unfold lastTable
  rw [milestones, List.filterMap_append, List.getLast?_append]

theorem lastTable_eq_none_iff :
    world.lastTable file = none ↔
      ∀ table, Happening.reached (.tableSet file table) ∉ world.history := by
  unfold lastTable milestones
  rw [List.getLast?_eq_none_iff, List.filterMap_eq_nil_iff]
  constructor
  · intro none table member
    have found := none (.tableSet file table) (List.mem_filterMap.mpr ⟨_, member, rfl⟩)
    simp [Milestone.tableFor?] at found
  · intro never milestone member
    obtain ⟨happening, happened, milestoneEq⟩ := List.mem_filterMap.mp member
    cases happening with
    | reached reached =>
      cases milestoneEq
      cases milestone with
      | tableSet other table =>
        by_cases same : other = file
        · subst other
          exact absurd happened (never table)
        · exact if_neg same
      | destroyed other => rfl
    | _ => cases milestoneEq

end World

/-! ### The invariant -/

/-- The base table of every object file is the one that was set last. -/
def Kept (world : World) : Prop :=
  ∀ file, world.library.baseOf? file = world.lastTable file

variable {license : Operation → Prop} {world after : World}

theorem Quiet.kept (quiet : Quiet world after) (kept : Kept world) : Kept after := by
  intro file
  obtain ⟨added, milestones, none⟩ := quiet.milestones
  have nothing : added.filterMap (Milestone.tableFor? file) = [] :=
    List.filterMap_eq_nil_iff.mpr fun milestone member => none milestone member file
  rw [(quiet.same file).baseOf?, world.lastTable_of_milestones file milestones, nothing]
  exact kept file

theorem Relogging.kept (relogging : Relogging license world after) (sound : Sound world.library)
    (kept : Kept world) : Kept after := by
  intro file
  cases relogging with
  | released other gone => exact (Logging.baseOf?_release other file).trans (kept file)
  | installed other licensed => exact (Logging.baseOf?_install other file).trans (kept file)
  | uninstalled other licensed => exact (Logging.baseOf?_uninstall other file).trans (kept file)
  | tableSet other table licensed known accepted =>
    obtain ⟨attached, afterEq⟩ := sound.layer.setTable_accepted accepted
    have milestones := World.milestones_note
      (world.after (Logging.setTable other table)) (.reached (.tableSet other table))
    rw [world.lastTable_of_milestones file milestones]
    change ((Logging.setTable other table).apply world.library).2.baseOf? file = _
    rw [afterEq]
    by_cases same : other = file
    · subst other
      rw [Logging.baseOf?_reset_self file table attached]
      simp [Happening.milestone?, Milestone.tableFor?]
    · rw [(SameAt.reset table (Ne.symm same)).baseOf?, kept file]
      simp [Happening.milestone?, Milestone.tableFor?, same]
  | debugSet value =>
    change ((Logging.setDebug value).apply world.library).2.baseOf? file = _
    rw [sound.apply_setDebug]
    refine Eq.trans ?_ (kept file)
    exact Logging.baseOf?_walked file value world.library.live fun _ member =>
      sound.isAttached_of_mem_live member

theorem Move.kept (move : Move license world after) (sound : Sound world.library)
    (kept : Kept world) : Kept after := by
  rcases move.quiet_or_relogged with quiet | relogging
  · exact quiet.kept kept
  · exact relogging.kept sound kept

theorem Begun.kept (begun : Begun license world) : Kept world := by
  induction begun with
  | refl => exact fun _ => rfl
  | tail earlier move ih => exact move.kept (Begun.sound earlier) ih

/-! ### Taking the logging off -/

/-- The edit succeeds and leaves the file with the table that was set last. -/
structure Restores (change : Edit Unit) (world : World) (file : ObjectFileId) : Prop where
  ok : (change.apply world.library).1 = .ok ()
  table : (change.apply world.library).2.tableOf? file = world.lastTable file

variable {file : ObjectFileId}

theorem restores_uninstall (kept : Kept world) (attached : world.library.isAttached file = true)
    (installed : world.library.isInstalled file = true) :
    Restores (Logging.uninstall file) world file := by
  obtain ⟨data, entry⟩ := world.library.exists_entry_of_isInstalled installed
  have applied : (Logging.uninstall file).apply world.library =
      (.ok (), world.library.unlogged file data.base) := by
    rw [Logging.apply_uninstall, if_pos installed, entry, attached]
    rfl
  constructor
  · rw [applied]
  · rw [applied, ← kept file, world.library.baseOf?_of_entry entry]
    exact world.library.tableOf?_unlogged_self data.base attached

theorem restores_release (sound : Sound world.library) (kept : Kept world)
    (attached : world.library.isAttached file = true) :
    Restores (Logging.release file) world file := by
  cases installed : world.library.isInstalled file with
  | true =>
    have restores := restores_uninstall kept attached installed
    constructor
    · rw [Logging.apply_release, if_pos installed]
      exact restores.ok
    · rw [Logging.apply_release, if_pos installed]
      exact restores.table
  | false =>
    have clean : world.library.debugDataOf? file = none := by
      rw [sound.layer.isInstalled_eq_has] at installed
      exact Option.not_isSome_iff_eq_none.mp (ne_true_of_eq_false installed)
    have applied : (Logging.release file).apply world.library = (.ok (), world.library) := by
      rw [Logging.apply_release, installed]
      rfl
    constructor
    · rw [applied]
    · rw [applied, ← kept file, world.library.baseOf?_of_no_entry clean]

theorem Sound.debugDataOf?_setDebug_false {library : Library} (sound : Sound library)
    (member : file ∈ library.live) :
    ((Logging.setDebug false).apply library).2.debugDataOf? file = none := by
  have layerAfter := sound.layer.setDebug sound.registered false
  have settled : Settled false ((Logging.setDebug false).apply library).2 file := by
    rw [sound.apply_setDebug]
    exact Settled.walked_of_mem member
  cases entry : ((Logging.setDebug false).apply library).2.debugDataOf? file with
  | none => rfl
  | some data =>
    have off := settled (layerAfter.isSome_tableOf? entry)
    rw [entry] at off
    cases off

theorem restores_setDebug_false (sound : Sound world.library) (kept : Kept world)
    (live : world.library.Lists file) : Restores (Logging.setDebug false) world file := by
  have relogging : Relogging (fun _ => True) world (world.after (Logging.setDebug false)) :=
    .debugSet false
  have keptAfter := relogging.kept sound kept file
  have clean : (world.after (Logging.setDebug false)).library.debugDataOf? file = none :=
    sound.debugDataOf?_setDebug_false (sound.registered.mem_live_iff.mpr live)
  constructor
  · rw [sound.apply_setDebug]
  · rw [Library.baseOf?_of_no_entry _ clean] at keptAfter
    exact keptAfter

theorem apply_strike_release {space : SpaceId} (member : file ∈ world.library.owned space) :
    (do
      ProgramSpace.strike space file
      Logging.release file : Edit Unit).apply world.library =
      (Logging.release file).apply (world.withoutFile space file).library := by
  rw [Edit.apply_bind, ProgramSpace.apply_strike_of_mem member]
  rfl

theorem restores_strike_release {space : SpaceId} (sound : Sound world.library)
    (kept : Kept world) (member : file ∈ world.library.owned space) :
    Restores
      (do
        ProgramSpace.strike space file
        Logging.release file)
      world file := by
  have move : Move (fun _ => True) world (world.withoutFile space file) :=
    Move.withoutFile member
  have keptWithout := move.kept sound kept
  have attached : (world.withoutFile space file).library.isAttached file = true :=
    sound.registered.attached space file member
  have restores := restores_release (move.sound sound) keptWithout attached
  have lastEq : (world.withoutFile space file).lastTable file = world.lastTable file :=
    (keptWithout file).symm.trans (kept file)
  constructor
  · rw [apply_strike_release member]
    exact restores.ok
  · rw [apply_strike_release member, ← lastEq]
    exact restores.table

/-! ### The statement about runs -/

/-- At every moment of every run, and at every point inside the operations that
go on from there, the base table of a live object file is the one that the
gated setter set last, and there is none when it never set one. Uninstalling,
turning the debug setting off and announcing the file's destruction each leave
exactly that table active. -/
theorem Reachable.base_kept {moment : Moment} (reachable : Reachable .free moment)
    {later : World} (during : Path (fun _ => True) moment.toWorld later) {file : ObjectFileId}
    (live : later.library.Lists file) :
    later.library.baseOf? file = later.lastTable file ∧
    (later.library.baseOf? file = none ↔
      ∀ table, Happening.reached (.tableSet file table) ∉ later.history) ∧
    (later.library.isInstalled file = true → Restores (Logging.uninstall file) later file) ∧
    Restores (Logging.setDebug false) later file ∧
    ∀ space, file ∈ later.library.owned space →
      Restores
        (do
          ProgramSpace.strike space file
          Logging.release file)
        later file := by
  have begunMoment : Begun (fun _ => True) moment.toWorld := reachable.begun fun _ _ _ => trivial
  have begun : Begun (fun _ => True) later := begunMoment.trans during
  have sound := begun.sound
  have kept := begun.kept
  have attached := sound.registered.isAttached_of_lists live
  refine ⟨kept file, ?_, restores_uninstall kept attached, restores_setDebug_false sound kept live,
    fun space member => restores_strike_release sound kept member⟩
  rw [kept file]
  exact later.lastTable_eq_none_iff file

theorem base_kept_logging :
    Moment.logging.library.baseOf? { index := 0 } = some (.reader { index := 0 }) ∧
    Moment.logging.lastTable { index := 0 } = some (.reader { index := 0 }) ∧
    Restores (Logging.uninstall { index := 0 }) Moment.logging.toWorld { index := 0 } := by
  have facts := (reachable_logging fun _ _ => trivial).base_kept .refl lists_logging
  have baseEq : Moment.logging.library.baseOf? { index := 0 } = some (.reader { index := 0 }) := rfl
  exact ⟨baseEq, facts.1.symm.trans baseEq, facts.2.2.1 rfl⟩

end ReaderTrace
