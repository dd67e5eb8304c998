import ReaderTrace.Proofs.Agreement

/-!
Edits under which agreement is kept.

Most edits are unaware of the logging: they do not look at it and leave it as
it is, so that libraries that agree before agree afterwards. Edits of the
logging itself keep the agreement when they are made on the one library with
logging, and the gated setter keeps it when it is run on both.
-/

namespace ReaderTrace

/-- An edit that neither sees nor touches the logging, and makes no change to
tables that exist. -/
structure Unaware {α : Type} (change : Edit α) : Prop where
  outcome : ∀ library, (change.apply library).1 = (change.apply library.muted).1
  muted : ∀ library, (change.apply library).2.muted = (change.apply library.muted).2
  same : ∀ library file, SameAt library (change.apply library).2 file
  debug : ∀ library, (change.apply library).2.debug = library.debug
  shadows : ∀ library, (change.apply library).2.shadows = library.shadows
  readers : ∀ library, library.readerTables <+: (change.apply library).2.readerTables
  probeTables : ∀ library, library.probeTables <+: (change.apply library).2.probeTables
  names : ∀ library file, (library.tableOf? file).isSome = true →
    (change.apply library).2.debugName file = library.debugName file

variable {traced plain : Library}

theorem Agree.edit {α : Type} {change : Edit α} (agree : Agree traced plain)
    (unaware : Unaware change) (known : (change.apply traced).2.ProbesKnown) :
    (change.apply traced).1 = (change.apply plain).1 ∧
      Agree (change.apply traced).2 (change.apply plain).2 := by
  have readersPrefix := unaware.readers traced
  have still : ∀ table, traced.IsReaders table → (change.apply traced).2.IsReaders table := by
    intro table ⟨id, tableEq, bound⟩
    exact ⟨id, tableEq, Nat.lt_of_lt_of_le bound readersPrefix.length_le⟩
  refine ⟨?_, ?_, ?_, ?_, ?_, ?_, known, ?_⟩
  · rw [unaware.outcome traced, unaware.outcome plain, agree.muted]
  · rw [unaware.muted traced, unaware.muted plain, agree.muted]
  · rw [unaware.debug, agree.off]
  · intro file
    rw [(unaware.same plain file).entry, agree.clean]
  · intro file
    rw [(unaware.same plain file).table, (unaware.same traced file).baseOf?, agree.tables]
  · intro file table active
    rw [(unaware.same plain file).table] at active
    exact still table (agree.real file table active)
  · intro file data entry
    rw [(unaware.same traced file).entry] at entry
    obtain ⟨id, shadowEq, tracedEq, built⟩ := agree.current file data entry
    have nameEq := unaware.names traced file (by rw [tracedEq]; rfl)
    have sameBase : SameTable traced (change.apply traced).2 data.base :=
      .of_appended (agree.isReaders_base entry) agree.known readersPrefix
        (unaware.probeTables traced)
    refine ⟨id, shadowEq, (unaware.same traced file).table.trans tracedEq, ?_⟩
    rw [unaware.shadows, sameBase.build nameEq]
    exact built

/-! ### Edits that are unaware -/

private theorem unaware_of_files {α : Type} {change : Edit α}
    (outcome : ∀ library, (change.apply library).1 = (change.apply library.muted).1)
    (muted : ∀ library, (change.apply library).2.muted = (change.apply library.muted).2)
    (files : ∀ library, (change.apply library).2.objectFiles = library.objectFiles)
    (logging : ∀ library, (change.apply library).2.debugData = library.debugData ∧
      (change.apply library).2.debug = library.debug ∧
      (change.apply library).2.shadows = library.shadows)
    (tables : ∀ library, library.readerTables <+: (change.apply library).2.readerTables ∧
      library.probeTables <+: (change.apply library).2.probeTables) :
    Unaware change := by
  refine ⟨outcome, muted, ?_, fun library => (logging library).2.1,
    fun library => (logging library).2.2, fun library => (tables library).1,
    fun library => (tables library).2, ?_⟩
  · intro library file
    constructor
    · unfold Library.tableOf? Library.objectFile?
      rw [files]
    · unfold Library.debugDataOf?
      rw [(logging library).1]
  · intro library file _
    unfold Library.debugName Library.objectFile?
    rw [files]

theorem unaware_create (name : Option String) : Unaware (ProgramSpace.create name) :=
  unaware_of_files (fun _ => rfl) (fun _ => rfl) (fun _ => rfl) (fun _ => ⟨rfl, rfl, rfl⟩)
    fun _ => ⟨List.prefix_rfl, List.prefix_rfl⟩

theorem unaware_markDisposed (space : SpaceId) : Unaware (ProgramSpace.markDisposed space) :=
  unaware_of_files (fun _ => rfl) (fun _ => rfl) (fun _ => rfl) (fun _ => ⟨rfl, rfl, rfl⟩)
    fun _ => ⟨List.prefix_rfl, List.prefix_rfl⟩

theorem unaware_unregister (space : SpaceId) : Unaware (ProgramSpace.unregister space) :=
  unaware_of_files (fun _ => rfl) (fun _ => rfl) (fun _ => rfl) (fun _ => ⟨rfl, rfl, rfl⟩)
    fun _ => ⟨List.prefix_rfl, List.prefix_rfl⟩

theorem unaware_newProbeTable (function : FunctionId) : Unaware (Edit.newProbeTable function) :=
  unaware_of_files (fun _ => rfl) (fun _ => rfl) (fun _ => rfl) (fun _ => ⟨rfl, rfl, rfl⟩)
    fun _ => ⟨List.prefix_rfl, List.prefix_append _ _⟩

theorem unaware_newReaderTable (table : ReaderTable) : Unaware (Edit.newReaderTable table) :=
  unaware_of_files (fun _ => rfl) (fun _ => rfl) (fun _ => rfl) (fun _ => ⟨rfl, rfl, rfl⟩)
    fun _ => ⟨List.prefix_append _ _, List.prefix_rfl⟩

theorem unaware_newQuickFunctions (functions : QuickFunctions) :
    Unaware (Edit.newQuickFunctions functions) :=
  unaware_of_files (fun _ => rfl) (fun _ => rfl) (fun _ => rfl) (fun _ => ⟨rfl, rfl, rfl⟩)
    fun _ => ⟨List.prefix_rfl, List.prefix_rfl⟩

theorem unaware_describe (object : ObjectId) (content : Content) :
    Unaware (Edit.describe object content) :=
  unaware_of_files (fun _ => rfl) (fun _ => rfl) (fun _ => rfl) (fun _ => ⟨rfl, rfl, rfl⟩)
    fun _ => ⟨List.prefix_rfl, List.prefix_rfl⟩

theorem unaware_createEvent : Unaware Event.create :=
  unaware_of_files (fun _ => rfl) (fun _ => rfl) (fun _ => rfl) (fun _ => ⟨rfl, rfl, rfl⟩)
    fun _ => ⟨List.prefix_rfl, List.prefix_rfl⟩

theorem unaware_subscribe (event : EventId) (listener : Listener) :
    Unaware (Event.subscribe event listener) :=
  unaware_of_files (fun _ => rfl) (fun _ => rfl) (fun _ => rfl) (fun _ => ⟨rfl, rfl, rfl⟩)
    fun _ => ⟨List.prefix_rfl, List.prefix_rfl⟩

theorem unaware_strike (space : SpaceId) (file : ObjectFileId) :
    Unaware (ProgramSpace.strike space file) := by
  have applied := fun library => ProgramSpace.apply_strike library space file
  apply unaware_of_files
  · intro library
    rw [applied, applied, Library.owned_muted, Library.debugName_muted]
    cases (library.owned space).contains file <;> rfl
  · intro library
    rw [applied, applied, Library.owned_muted]
    cases (library.owned space).contains file <;> rfl
  · intro library
    rw [applied]
    cases (library.owned space).contains file <;> rfl
  · intro library
    rw [applied]
    cases (library.owned space).contains file <;> exact ⟨rfl, rfl, rfl⟩
  · intro library
    rw [applied]
    cases (library.owned space).contains file <;> exact ⟨List.prefix_rfl, List.prefix_rfl⟩

private theorem muted_withFile (library : Library) (space : SpaceId) (name : String)
    (quick : Option QuickId) :
    (ProgramSpace.withFile library space name quick).muted =
      ProgramSpace.withFile library.muted space name quick := by
  have lengthEq : library.muted.objectFiles.length = library.objectFiles.length :=
    library.length_objectFiles_bare
  unfold ProgramSpace.withFile
  rw [lengthEq]
  unfold Library.muted Library.bare Library.modifySpace
  simp only [List.map_append]
  rfl

theorem unaware_addObjectFile (space : SpaceId) (name : String) (quick : Option QuickId) :
    Unaware (ProgramSpace.addObjectFile space name quick) := by
  have applied := fun library => ProgramSpace.apply_addObjectFile library space name quick
  constructor
  · intro library
    have lengthEq : ProgramSpace.nextFile library.muted = ProgramSpace.nextFile library :=
      congrArg ObjectFileId.mk library.length_objectFiles_bare
    rw [applied, applied, Library.isDisposed_muted, lengthEq]
    cases library.isDisposed space <;> rfl
  · intro library
    rw [applied, applied, Library.isDisposed_muted]
    cases library.isDisposed space with
    | true => rfl
    | false => exact muted_withFile library space name quick
  · intro library file
    rw [applied]
    cases library.isDisposed space with
    | true => exact SameAt.refl library file
    | false => exact SameAt.withFile library space name quick file
  · intro library
    rw [applied]
    cases library.isDisposed space <;> rfl
  · intro library
    rw [applied]
    cases library.isDisposed space <;> rfl
  · intro library
    rw [applied]
    cases library.isDisposed space <;> exact List.prefix_rfl
  · intro library
    rw [applied]
    cases library.isDisposed space <;> exact List.prefix_rfl
  · intro library file active
    rw [applied]
    cases library.isDisposed space with
    | true => rfl
    | false =>
      have known := library.lt_of_isSome_tableOf? active
      change (ProgramSpace.withFile library space name quick).debugName file = _
      unfold Library.debugName
      rw [ProgramSpace.objectFile?_withFile_of_lt library space name quick known]

private theorem unaware_modifyObjectFile (file : ObjectFileId)
    {change : ObjectFile → ObjectFile}
    (commutes : ∀ record, (change record).bare = change record.bare)
    (table : ∀ record, (change record).table = record.table)
    (name : ∀ record, (change record).name = record.name) :
    Unaware (modify fun library => library.modifyObjectFile file change) := by
  refine ⟨fun _ => rfl, ?_, ?_, fun _ => rfl, fun _ => rfl, fun _ => List.prefix_rfl,
    fun _ => List.prefix_rfl, ?_⟩
  · intro library
    have bareEq := library.bare_modifyObjectFile file commutes
    change { (library.modifyObjectFile file change).bare with addresses := .empty } = _
    rw [bareEq]
    rfl
  · intro library other
    exact ⟨library.tableOf?_of_kept table other, rfl⟩
  · intro library other _
    exact library.debugName_of_kept name other

theorem unaware_detach (file : ObjectFileId) : Unaware (Edit.detach file) :=
  unaware_modifyObjectFile file (fun _ => rfl) (fun _ => rfl) fun _ => rfl

theorem unaware_setPartialSymbolsRead (file : ObjectFileId) (value : Bool) :
    Unaware (Edit.setPartialSymbolsRead file value) :=
  unaware_modifyObjectFile file (fun _ => rfl) (fun _ => rfl) fun _ => rfl

/-! ### Edits of the one library with logging -/

namespace Agree

private theorem muted_of_bare {library after : Library} (bare : after.bare = library.bare) :
    after.muted = library.muted := by
  unfold Library.muted
  rw [bare]

private theorem build_of_bare {library after : Library} (bare : after.bare = library.bare)
    (known : library.ProbesKnown) {base : TableRef} (isReaders : library.IsReaders base)
    (file : ObjectFileId) :
    Shadow.build after base file = Shadow.build library base file := by
  have readersEq : after.bare.readerTables = library.bare.readerTables := by rw [bare]
  have probesEq : after.bare.probeTables = library.bare.probeTables := by rw [bare]
  have nameEq := Library.debugName_of_bare bare file
  have sameBase : SameTable library after base :=
    .of_appended isReaders known ⟨[], (List.append_nil _).trans readersEq.symm⟩
      ⟨[], (List.append_nil _).trans probesEq.symm⟩
  exact sameBase.build nameEq

/-- Logging on the traced library alone, as long as the bases stay. -/
private theorem relog {after : Library} (agree : Agree traced plain)
    (bare : after.bare = traced.bare) (bases : ∀ file, after.baseOf? file = traced.baseOf? file)
    (current : ∀ file data, after.debugDataOf? file = some data →
      ∃ id, data.shadow = .shadow id ∧ after.tableOf? file = some data.shadow ∧
        after.shadows[id.index]? = some (Shadow.build traced data.base file)) :
    Agree after plain := by
  have readersEq : after.readerTables = traced.readerTables := by
    have view : after.bare.readerTables = traced.bare.readerTables := by rw [bare]
    exact view
  have probesEq : after.probeTables = traced.probeTables := by
    have view : after.bare.probeTables = traced.bare.probeTables := by rw [bare]
    exact view
  have still : ∀ table, traced.IsReaders table → after.IsReaders table := by
    intro table ⟨id, tableEq, bound⟩
    exact ⟨id, tableEq, by rw [readersEq]; exact bound⟩
  refine ⟨agree.muted.trans (muted_of_bare bare).symm, agree.off, agree.clean, ?_, ?_, ?_, ?_⟩
  · intro file
    rw [bases]
    exact agree.tables file
  · intro file table active
    exact still table (agree.real file table active)
  · unfold Library.ProbesKnown
    rw [readersEq, probesEq]
    exact agree.known
  · intro file data entry
    obtain ⟨id, shadowEq, active, built⟩ := current file data entry
    have isReaders : traced.IsReaders data.base := by
      refine agree.real file data.base ?_
      rw [agree.tables, ← bases, after.baseOf?_of_entry entry]
    refine ⟨id, shadowEq, active, ?_⟩
    rw [build_of_bare bare agree.known isReaders]
    exact built

theorem logged (agree : Agree traced plain) {file : ObjectFileId} {base : TableRef}
    (active : traced.tableOf? file = some base) (clean : traced.debugDataOf? file = none)
    (attached : traced.isAttached file = true) : Agree (traced.logged file base) plain := by
  have others : ∀ other, other ≠ file → SameAt traced (traced.logged file base) other :=
    fun other different => SameAt.logged base different
  refine agree.relog (traced.bare_logged file base) ?_ ?_
  · intro other
    by_cases same : other = file
    · subst other
      rw [traced.baseOf?_logged_self, traced.baseOf?_of_no_entry clean, active]
    · exact (others other same).baseOf?
  · intro other data entry
    by_cases same : other = file
    · subst other
      rw [Library.debugDataOf?_logged, if_pos rfl] at entry
      cases entry
      refine ⟨_, rfl, traced.tableOf?_logged_self base attached, ?_⟩
      change (traced.shadows ++ [_])[traced.shadows.length]? = _
      exact List.getElem?_concat_length
    · rw [(others other same).entry] at entry
      obtain ⟨id, shadowEq, activeOther, built⟩ := agree.current other data entry
      refine ⟨id, shadowEq, (others other same).table.trans activeOther, ?_⟩
      have bound : id.index < traced.shadows.length := (List.getElem?_eq_some_iff.mp built).1
      change (traced.shadows ++ [_])[id.index]? = _
      rw [List.getElem?_append_left bound]
      exact built

theorem unlogged (agree : Agree traced plain) {file : ObjectFileId} {data : DebugData}
    (entry : traced.debugDataOf? file = some data) (attached : traced.isAttached file = true) :
    Agree (traced.unlogged file data.base) plain := by
  have others : ∀ other, other ≠ file → SameAt traced (traced.unlogged file data.base) other :=
    fun other different => SameAt.unlogged data.base different
  refine agree.relog (traced.bare_unlogged file data.base) ?_ ?_
  · intro other
    by_cases same : other = file
    · subst other
      rw [traced.baseOf?_unlogged_self data.base attached, traced.baseOf?_of_entry entry]
    · exact (others other same).baseOf?
  · intro other otherData otherEntry
    by_cases same : other = file
    · rw [Library.debugDataOf?_unlogged, if_pos same] at otherEntry
      cases otherEntry
    · rw [(others other same).entry] at otherEntry
      obtain ⟨id, shadowEq, active, built⟩ := agree.current other otherData otherEntry
      exact ⟨id, shadowEq, (others other same).table.trans active, built⟩

theorem reconciled (agree : Agree traced plain) (value : Bool) {file : ObjectFileId}
    (attached : traced.isAttached file = true) :
    Agree (Logging.reconciled value traced file) plain := by
  unfold Logging.reconciled
  split
  · next base active clean =>
    cases value with
    | false => exact agree
    | true => exact agree.logged active clean attached
  · next base data active entry =>
    cases value with
    | false => exact agree.unlogged entry attached
    | true => exact agree
  · exact agree

theorem walked (agree : Agree traced plain) (value : Bool) (files : List ObjectFileId)
    (attached : ∀ file ∈ files, traced.isAttached file = true) :
    Agree (Logging.walked value traced files) plain := by
  induction files generalizing traced with
  | nil => exact agree
  | cons file rest ih =>
    refine ih (agree.reconciled value (attached file (List.mem_cons_self ..))) ?_
    intro other member
    rw [Logging.isAttached_reconciled]
    exact attached other (List.mem_cons_of_mem _ member)

theorem setDebug (agree : Agree traced plain) (sound : Sound traced) (value : Bool) :
    Agree ((Logging.setDebug value).apply traced).2 plain := by
  rw [sound.apply_setDebug]
  have flipped : Agree { traced with debug := value } plain :=
    agree.relog rfl (fun _ => rfl) agree.current
  exact flipped.walked value traced.live fun _ member => sound.isAttached_of_mem_live member

theorem release (agree : Agree traced plain) {file : ObjectFileId}
    (attached : traced.isAttached file = true) :
    ((Logging.release file).apply traced).1 = .ok () ∧
      (Logging.release file).apply plain = (.ok (), plain) ∧
      Agree ((Logging.release file).apply traced).2 plain := by
  have untouched : (Logging.release file).apply plain = (.ok (), plain) := by
    rw [Logging.apply_release, agree.isInstalled]
    rfl
  rw [Logging.apply_release]
  cases installed : traced.isInstalled file with
  | false => exact ⟨rfl, untouched, agree⟩
  | true =>
    obtain ⟨data, entry⟩ := traced.exists_entry_of_isInstalled installed
    have applied : (Logging.uninstall file).apply traced =
        (.ok (), traced.unlogged file data.base) := by
      rw [Logging.apply_uninstall, if_pos installed, entry, attached]
      rfl
    rw [if_pos rfl, applied]
    exact ⟨rfl, untouched, agree.unlogged entry attached⟩

/-! ### The gated setter in both libraries -/

private theorem assigned (agree : Agree traced plain) {file : ObjectFileId} {table : TableRef}
    (isReaders : traced.IsReaders table) (attached : traced.isAttached file = true) :
    Agree (traced.unlogged file table) (plain.unlogged file table) := by
  have plainAttached := (agree.isAttached file).trans attached
  have tracedSelf := traced.baseOf?_unlogged_self table attached
  have plainSelf := plain.tableOf?_unlogged_self table plainAttached
  have others : ∀ other, other ≠ file → SameAt traced (traced.unlogged file table) other :=
    fun other different => SameAt.unlogged table different
  have plainOthers : ∀ other, other ≠ file →
      (plain.unlogged file table).tableOf? other = plain.tableOf? other :=
    fun other different => plain.tableOf?_unlogged_other table different
  refine ⟨?_, agree.off, ?_, ?_, ?_, agree.known, ?_⟩
  · rw [muted_of_bare (plain.bare_unlogged file table), agree.muted,
      muted_of_bare (traced.bare_unlogged file table)]
  · intro other
    rw [Library.debugDataOf?_unlogged, agree.clean, ite_self]
  · intro other
    by_cases same : other = file
    · subst other
      rw [plainSelf, tracedSelf]
    · rw [plainOthers other same, (others other same).baseOf?, agree.tables]
  · intro other active activeEq
    by_cases same : other = file
    · subst other
      rw [plainSelf] at activeEq
      rw [← Option.some.inj activeEq]
      exact isReaders
    · rw [plainOthers other same] at activeEq
      exact agree.real other active activeEq
  · intro other data entry
    by_cases same : other = file
    · rw [Library.debugDataOf?_unlogged, if_pos same] at entry
      cases entry
    · rw [(others other same).entry] at entry
      obtain ⟨id, shadowEq, active, built⟩ := agree.current other data entry
      refine ⟨id, shadowEq, (others other same).table.trans active, ?_⟩
      rw [build_of_bare (traced.bare_unlogged file table) agree.known
        (agree.isReaders_base entry)]
      exact built

theorem reset (agree : Agree traced plain) {file : ObjectFileId} {table : TableRef}
    (isReaders : traced.IsReaders table) (attached : traced.isAttached file = true) :
    Agree (Logging.reset traced file table) (plain.unlogged file table) := by
  have cleared := agree.assigned isReaders attached
  unfold Logging.reset
  split
  · refine cleared.logged (traced.tableOf?_unlogged_self table attached) ?_ ?_
    · rw [Library.debugDataOf?_unlogged, if_pos rfl]
    · rw [Library.isAttached_unlogged]
      exact attached
  · exact cleared

theorem setTable (agree : Agree traced plain) {file : ObjectFileId} {table : TableRef}
    (isReaders : traced.IsReaders table)
    (accepted : (Logging.setTable file table).apply traced =
      (.ok (), Logging.reset traced file table))
    (attached : traced.isAttached file = true) :
    ((Logging.setTable file table).apply plain).1 = .ok () ∧
      Agree ((Logging.setTable file table).apply traced).2
        ((Logging.setTable file table).apply plain).2 := by
  have plainApplied : (Logging.setTable file table).apply plain =
      (.ok (), plain.unlogged file table) := by
    have noEntry : ∀ data, plain.debugDataOf? file = some data →
        (plain.tableOf? file).isSome = true := by
      intro data entry
      rw [agree.clean] at entry
      cases entry
    rw [Logging.apply_setTable table noEntry, agree.isInstalled, agree.isAttached, attached]
    unfold Logging.reset
    rw [agree.off]
    rfl
  rw [accepted, plainApplied]
  exact ⟨rfl, agree.reset isReaders attached⟩

end Agree

end ReaderTrace
