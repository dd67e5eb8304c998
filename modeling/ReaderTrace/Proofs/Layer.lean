import ReaderTrace.Proofs.Logging
import ReaderTrace.Proofs.Registry

/-!
The representation of the logging, as an invariant of the library.

The side table and the active tables are two stores. They are in step when
every entry names a shadow that was built for its object file from the base
table that the entry keeps, and when that shadow is the file's active table,
as long as the active table can be assigned at all.
-/

namespace ReaderTrace

/-- The entry `data` of `file` describes what the library holds. -/
structure Wraps (library : Library) (file : ObjectFileId) (data : DebugData) : Prop where
  shadow : ∃ id, data.shadow = .shadow id ∧
    (∃ built, library.shadows[id.index]? = some built ∧ built.base = data.base ∧
      built.host = file) ∧
    ∀ other, data.base = .shadow other → other.index < id.index
  base : library.HasTable data.base
  hasTable : (library.tableOf? file).isSome = true
  active : library.isAttached file = true → library.tableOf? file = some data.shadow

structure Layer (library : Library) : Prop where
  known : ∀ file table, library.tableOf? file = some table → library.HasTable table
  wraps : ∀ file data, library.debugDataOf? file = some data → Wraps library file data

/-- Two libraries that agree on what the invariant speaks about; new tables of
readers may have been made. -/
structure SameLayer (library after : Library) : Prop where
  tables : ∀ file, after.tableOf? file = library.tableOf? file
  attached : ∀ file, after.isAttached file = library.isAttached file
  debugData : after.debugData = library.debugData
  shadows : after.shadows = library.shadows
  readers : library.readerTables.length ≤ after.readerTables.length

variable {library after : Library}

theorem HasTable.mono {table : TableRef} (known : library.HasTable table)
    (readers : library.readerTables.length ≤ after.readerTables.length)
    (shadows : library.shadows.length ≤ after.shadows.length) : after.HasTable table := by
  cases table with
  | reader id => exact Nat.lt_of_lt_of_le known readers
  | shadow id => exact Nat.lt_of_lt_of_le known shadows

/-- Shadows that are added leave those that exist where they are. -/
theorem getElem?_shadows_of_added (shadows : library.shadows <+: after.shadows) {index : Nat}
    (known : index < library.shadows.length) :
    after.shadows[index]? = library.shadows[index]? := by
  obtain ⟨added, appended⟩ := shadows
  rw [← appended, List.getElem?_append_left known]

theorem shadow_of_added (shadows : library.shadows <+: after.shadows) {index : Nat}
    {shadow : Shadow} (found : library.shadows[index]? = some shadow) :
    after.shadows[index]? = some shadow := by
  have known : index < library.shadows.length := (List.getElem?_eq_some_iff.mp found).1
  exact (getElem?_shadows_of_added shadows known).trans found

theorem Wraps.carry {file : ObjectFileId} {data : DebugData} (wraps : Wraps library file data)
    (tableEq : after.tableOf? file = library.tableOf? file)
    (attached : after.isAttached file = true → library.isAttached file = true)
    (readers : library.readerTables.length ≤ after.readerTables.length)
    (shadows : library.shadows <+: after.shadows) : Wraps after file data := by
  obtain ⟨id, shadowEq, ⟨built, found, belongs⟩, older⟩ := wraps.shadow
  refine ⟨⟨id, shadowEq, ⟨built, ?_, belongs⟩, older⟩, ?_, ?_, ?_⟩
  · exact shadow_of_added shadows found
  · exact HasTable.mono wraps.base readers shadows.length_le
  · rw [tableEq]
    exact wraps.hasTable
  · intro attachedAfter
    rw [tableEq]
    exact wraps.active (attached attachedAfter)

namespace Layer

theorem initial : Layer .initial where
  known := by intro file table active; cases active
  wraps := by intro file data entry; cases entry

theorem congr (layer : Layer library) (same : SameLayer library after) : Layer after := by
  have prefixEq : library.shadows <+: after.shadows :=
    ⟨[], (List.append_nil _).trans same.shadows.symm⟩
  constructor
  · intro file table active
    rw [same.tables] at active
    exact HasTable.mono (layer.known file table active) same.readers prefixEq.length_le
  · intro file data entry
    unfold Library.debugDataOf? at entry
    rw [same.debugData] at entry
    exact (layer.wraps file data entry).carry (same.tables file)
      (by rw [same.attached]; exact id) same.readers prefixEq

theorem isSome_tableOf? (layer : Layer library) {file : ObjectFileId} {data : DebugData}
    (entry : library.debugDataOf? file = some data) : (library.tableOf? file).isSome = true :=
  (layer.wraps file data entry).hasTable

theorem isInstalled_eq_has (layer : Layer library) (file : ObjectFileId) :
    library.isInstalled file = library.debugData.has file := by
  rw [Library.isInstalled_eq]
  change _ = (library.debugDataOf? file).isSome
  cases entry : library.debugDataOf? file with
  | none => exact Bool.and_false _
  | some data => rw [layer.isSome_tableOf? entry]; rfl

/-! ### Putting logging on and taking it off -/

private theorem hasTable_nextShadow {library : Library} {file : ObjectFileId} {base : TableRef} :
    (library.remember file base).HasTable library.nextShadow := by
  change library.shadows.length < (library.shadows ++ [_]).length
  rw [List.length_append]
  exact Nat.lt_succ_self _

private theorem shadow_remember {library : Library} (layer : Layer library) {file : ObjectFileId}
    {base : TableRef} (active : library.tableOf? file = some base) :
    ∃ id, library.nextShadow = .shadow id ∧
      (∃ built, (library.remember file base).shadows[id.index]? = some built ∧
        built.base = base ∧ built.host = file) ∧
      ∀ other, base = .shadow other → other.index < id.index := by
  refine ⟨_, rfl, ⟨_, List.getElem?_concat_length, rfl, rfl⟩, ?_⟩
  intro other baseEq
  have known := layer.known file base active
  rw [baseEq] at known
  exact known

private theorem prefix_remember (library : Library) (file : ObjectFileId) (base : TableRef) :
    library.shadows <+: (library.remember file base).shadows :=
  List.prefix_append _ _

theorem logged (layer : Layer library) {file : ObjectFileId} {base : TableRef}
    (active : library.tableOf? file = some base) (attached : library.isAttached file = true) :
    Layer (library.logged file base) := by
  have newActive := library.tableOf?_logged_self base attached
  have others : ∀ other, other ≠ file →
      (library.logged file base).tableOf? other = library.tableOf? other := fun other different =>
    library.tableOf?_logged_other base different
  have grows := prefix_remember library file base
  constructor
  · intro other table tableEq
    by_cases same : other = file
    · subst other
      rw [newActive] at tableEq
      rw [← Option.some.inj tableEq]
      exact hasTable_nextShadow
    · rw [others other same] at tableEq
      exact HasTable.mono (layer.known other table tableEq) (Nat.le_refl _) grows.length_le
  · intro other data entry
    rw [Library.debugDataOf?_logged] at entry
    by_cases same : other = file
    · subst other
      rw [if_pos rfl] at entry
      rw [← Option.some.inj entry]
      exact
        { shadow := shadow_remember layer active
          base := HasTable.mono (layer.known file base active) (Nat.le_refl _) grows.length_le
          hasTable := by rw [newActive]; rfl
          active := fun _ => newActive }
    · rw [if_neg same] at entry
      exact (layer.wraps other data entry).carry (others other same)
        (by rw [Library.isAttached_logged]; exact id) (Nat.le_refl _) grows

/-- Remembering a shadow without assigning it does no harm to an object file
whose table can no longer be assigned. -/
theorem remember (layer : Layer library) {file : ObjectFileId} {base : TableRef}
    (active : library.tableOf? file = some base) (detached : library.isAttached file = false) :
    Layer (library.remember file base) := by
  have grows := prefix_remember library file base
  constructor
  · intro other table tableEq
    exact HasTable.mono (layer.known other table tableEq) (Nat.le_refl _) grows.length_le
  · intro other data entry
    rw [Library.debugDataOf?_remember] at entry
    by_cases same : other = file
    · subst other
      rw [if_pos rfl] at entry
      rw [← Option.some.inj entry]
      refine
        { shadow := shadow_remember layer active
          base := HasTable.mono (layer.known file base active) (Nat.le_refl _) grows.length_le
          hasTable := ?_
          active := ?_ }
      · change (library.tableOf? file).isSome = true
        rw [active]
        rfl
      · intro attached
        change library.isAttached file = true at attached
        rw [detached] at attached
        cases attached
    · rw [if_neg same] at entry
      exact (layer.wraps other data entry).carry rfl id (Nat.le_refl _) grows

theorem unlogged (layer : Layer library) {file : ObjectFileId} {table : TableRef}
    (known : library.HasTable table) (attached : library.isAttached file = true) :
    Layer (library.unlogged file table) := by
  constructor
  · intro other active activeEq
    by_cases same : other = file
    · subst other
      rw [library.tableOf?_unlogged_self table attached] at activeEq
      rw [← Option.some.inj activeEq]
      exact known
    · rw [library.tableOf?_unlogged_other table same] at activeEq
      exact layer.known other active activeEq
  · intro other data entry
    rw [Library.debugDataOf?_unlogged] at entry
    by_cases same : other = file
    · rw [if_pos same] at entry
      cases entry
    · rw [if_neg same] at entry
      exact (layer.wraps other data entry).carry
        (library.tableOf?_unlogged_other table same)
        (by rw [Library.isAttached_unlogged]; exact id) (Nat.le_refl _) List.prefix_rfl

/-! ### Whole operations -/

theorem install (layer : Layer library) (file : ObjectFileId) :
    Layer ((Logging.install file).apply library).2 := by
  rcases Logging.install_cases library file with
    same | ⟨base, _, active, ⟨attached, applied⟩ | ⟨detached, applied⟩⟩
  · rw [same]
    exact layer
  · rw [applied]
    exact layer.logged active attached
  · rw [applied]
    exact layer.remember active detached

theorem uninstall (layer : Layer library) (file : ObjectFileId) :
    Layer ((Logging.uninstall file).apply library).2 := by
  rcases Logging.uninstall_cases library file with same | ⟨data, entry, attached, applied⟩
  · rw [same]
    exact layer
  · rw [applied]
    exact layer.unlogged (layer.wraps file data entry).base attached

theorem reset (layer : Layer library) {file : ObjectFileId} {table : TableRef}
    (known : library.HasTable table) (attached : library.isAttached file = true) :
    Layer (Logging.reset library file table) := by
  have cleared := layer.unlogged known attached
  unfold Logging.reset
  split
  · refine cleared.logged (library.tableOf?_unlogged_self table attached) ?_
    rw [Library.isAttached_unlogged]
    exact attached
  · exact cleared

theorem apply_setTable (layer : Layer library) (file : ObjectFileId) (table : TableRef) :
    (Logging.setTable file table).apply library =
      if library.isInstalled file && !library.debug then
        (.error (.fault (.assertion (.loggingInstalledWhileOff (library.debugName file)))), library)
      else if library.isAttached file then (.ok (), Logging.reset library file table)
      else (.error (.fault (.assertion (.notAttached (library.debugName file)))), library) :=
  Logging.apply_setTable table fun _ entry => layer.isSome_tableOf? entry

theorem setTable_accepted (layer : Layer library) {file : ObjectFileId} {table : TableRef}
    (accepted : ((Logging.setTable file table).apply library).1 = .ok ()) :
    library.isAttached file = true ∧
      ((Logging.setTable file table).apply library).2 = Logging.reset library file table := by
  rw [layer.apply_setTable] at accepted ⊢
  split at accepted
  · cases accepted
  · next allowed =>
    rw [if_neg allowed]
    split at accepted
    · next attached =>
      rw [if_pos attached]
      exact ⟨attached, rfl⟩
    · cases accepted

theorem setTable_refused (layer : Layer library) {file : ObjectFileId} {table : TableRef}
    {raised : Raised}
    (refused : ((Logging.setTable file table).apply library).1 = .error raised) :
    ((Logging.setTable file table).apply library).2 = library := by
  rw [layer.apply_setTable] at refused ⊢
  split at refused
  · next wrong => rw [if_pos wrong]
  · next right =>
    rw [if_neg right]
    split at refused
    · cases refused
    · next detached => rw [if_neg detached]

theorem reconciled (layer : Layer library) (value : Bool) {file : ObjectFileId}
    (attached : library.isAttached file = true) :
    Layer (Logging.reconciled value library file) := by
  unfold Logging.reconciled
  split
  · next base active clean =>
    cases value with
    | false => exact layer
    | true => exact layer.logged active attached
  · next base data active entry =>
    cases value with
    | false => exact layer.unlogged (layer.wraps file data entry).base attached
    | true => exact layer
  · exact layer

theorem walked (layer : Layer library) (value : Bool) (files : List ObjectFileId)
    (attached : ∀ file ∈ files, library.isAttached file = true) :
    Layer (Logging.walked value library files) := by
  induction files generalizing library with
  | nil => exact layer
  | cons file rest ih =>
    refine ih (layer.reconciled value (attached file (List.mem_cons_self ..))) ?_
    intro other member
    rw [Logging.isAttached_reconciled]
    exact attached other (List.mem_cons_of_mem _ member)

theorem setDebug (layer : Layer library) (registered : Registered library) (value : Bool) :
    Layer ((Logging.setDebug value).apply library).2 := by
  have attached : ∀ file ∈ library.live, library.isAttached file = true := fun file member =>
    registered.isAttached_of_lists (registered.mem_live_iff.mp member)
  rw [Logging.apply_setDebug value attached]
  have flipped : Layer { library with debug := value } :=
    layer.congr ⟨fun _ => rfl, fun _ => rfl, rfl, rfl, Nat.le_refl _⟩
  exact flipped.walked value library.live attached

theorem release (layer : Layer library) (file : ObjectFileId) :
    Layer ((Logging.release file).apply library).2 := by
  rw [Logging.apply_release]
  split
  · exact layer.uninstall file
  · exact layer

/-! ### Object files that come and go -/

theorem withFile (layer : Layer library) (space : SpaceId) (name : String)
    (quick : Option QuickId) : Layer (ProgramSpace.withFile library space name quick) := by
  have tableEq := ProgramSpace.tableOf?_withFile library space name quick
  constructor
  · intro file table active
    rw [tableEq] at active
    exact layer.known file table active
  · intro file data entry
    have wraps := layer.wraps file data entry
    have known := library.lt_of_isSome_tableOf? wraps.hasTable
    refine wraps.carry (tableEq file) ?_ (Nat.le_refl _) List.prefix_rfl
    rw [ProgramSpace.isAttached_withFile_of_lt library space name quick known]
    exact id

theorem detach (layer : Layer library) (file : ObjectFileId) :
    Layer ((Edit.detach file).apply library).2 := by
  have tableEq : ∀ other,
      ((Edit.detach file).apply library).2.tableOf? other = library.tableOf? other :=
    library.tableOf?_of_kept fun _ => rfl
  constructor
  · intro other table active
    rw [tableEq] at active
    exact layer.known other table active
  · intro other data entry
    refine (layer.wraps other data entry).carry (tableEq other) ?_ (Nat.le_refl _) List.prefix_rfl
    change (library.modifyObjectFile file _).isAttached other = true → _
    unfold Library.isAttached
    rw [Library.objectFile?_modifyObjectFile]
    split
    · cases library.objectFile? file <;> simp
    · exact id

end Layer

end ReaderTrace
