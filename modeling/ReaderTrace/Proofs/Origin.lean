import ReaderTrace.Proofs.Course

/-!
Where the shadows of a run come from.

A shadow is never changed once it is built. Each one that the library holds was
therefore built at some earlier point of the run, from the functions that its
base table had there.
-/

namespace ReaderTrace

/-! ### Tables that read the same -/

/-- The reads of a table give the same in both libraries. -/
structure SameTable (library after : Library) (table : TableRef) : Prop where
  functions : ∀ slot, after.function? table slot = library.function? table slot
  probes : after.probes? table = library.probes? table

namespace SameTable

variable {library after : Library} {table : TableRef}

theorem build (same : SameTable library after table) {file : ObjectFileId}
    (nameEq : after.debugName file = library.debugName file) :
    Shadow.build after table file = Shadow.build library table file := by
  have functionsEq : after.function? table = library.function? table :=
    funext same.functions
  unfold Shadow.build
  rw [nameEq, functionsEq, same.probes]

end SameTable

/-! ### Shadows that are added -/

/-- The logging alone is different. The shadows that are new were built from
tables as they were before, and the entries that are new name such shadows. -/
structure Grown (library after : Library) : Prop where
  bare : after.bare = library.bare
  shadows : library.shadows <+: after.shadows
  fresh : ∀ index shadow, library.shadows.length ≤ index → after.shadows[index]? = some shadow →
    library.HasTable shadow.base ∧ shadow = Shadow.build library shadow.base shadow.host
  entries : ∀ file data, after.debugDataOf? file = some data →
    library.debugDataOf? file = some data ∨
      ∃ id, data.shadow = .shadow id ∧ library.shadows.length ≤ id.index

namespace Grown

variable {library after : Library}

theorem of_shadows (bare : after.bare = library.bare) (same : after.shadows = library.shadows)
    (entries : after.debugData = library.debugData) : Grown library after := by
  refine ⟨bare, ⟨[], (List.append_nil _).trans same.symm⟩, ?_, ?_⟩
  · intro index shadow beyond found
    rw [same, List.getElem?_eq_none beyond] at found
    cases found
  · intro file data entry
    unfold Library.debugDataOf? at entry
    rw [entries] at entry
    exact Or.inl entry

theorem sameTable (grown : Grown library after) {table : TableRef}
    (known : library.HasTable table) : SameTable library after table := by
  have readersEq : after.bare.readerTables = library.bare.readerTables := by rw [grown.bare]
  have probesEq : after.bare.probeTables = library.bare.probeTables := by rw [grown.bare]
  change after.readerTables = library.readerTables at readersEq
  change after.probeTables = library.probeTables at probesEq
  cases table with
  | reader id =>
    constructor
    · intro slot
      change (after.readerTables[id.index]?).bind _ = (library.readerTables[id.index]?).bind _
      rw [readersEq]
    · change (after.readerTables[id.index]?).bind _ = (library.readerTables[id.index]?).bind _
      rw [readersEq, probesEq]
  | shadow id =>
    have shadowEq : after.shadows[id.index]? = library.shadows[id.index]? :=
      getElem?_shadows_of_added grown.shadows known
    constructor
    · intro slot
      change (after.shadows[id.index]?).bind _ = (library.shadows[id.index]?).bind _
      rw [shadowEq]
    · change (after.shadows[id.index]?).bind _ = (library.shadows[id.index]?).bind _
      rw [shadowEq]

theorem build (grown : Grown library after) {base : TableRef} (known : library.HasTable base)
    (host : ObjectFileId) : Shadow.build after base host = Shadow.build library base host := by
  exact (grown.sameTable known).build (Library.debugName_of_bare grown.bare host)

theorem remember (grown : Grown library after) {base : TableRef} (known : library.HasTable base)
    (file : ObjectFileId) : Grown library (after.remember file base) := by
  refine ⟨grown.bare, grown.shadows.trans (List.prefix_append _ _), ?_, ?_⟩
  · intro index shadow beyond found
    change (after.shadows ++ [Shadow.build after base file])[index]? = some shadow at found
    rw [List.getElem?_append] at found
    split at found
    · exact grown.fresh index shadow beyond found
    · have shadowEq := List.mem_singleton.mp (List.mem_of_getElem? found)
      rw [shadowEq, grown.build known]
      exact ⟨known, rfl⟩
  · intro other data entry
    rw [Library.debugDataOf?_remember] at entry
    split at entry
    · cases entry
      exact Or.inr ⟨_, rfl, grown.shadows.length_le⟩
    · exact grown.entries other data entry

theorem logged (grown : Grown library after) {base : TableRef} (known : library.HasTable base)
    (file : ObjectFileId) : Grown library (after.logged file base) := by
  have remembered := grown.remember known file
  refine ⟨?_, remembered.shadows, remembered.fresh, remembered.entries⟩
  rw [Library.bare_logged, grown.bare]

theorem unlogged (grown : Grown library after) (file : ObjectFileId) (table : TableRef) :
    Grown library (after.unlogged file table) := by
  refine ⟨?_, grown.shadows, grown.fresh, ?_⟩
  · rw [Library.bare_unlogged, grown.bare]
  · intro other data entry
    rw [Library.debugDataOf?_unlogged] at entry
    split at entry
    · cases entry
    · exact grown.entries other data entry

theorem refl (library : Library) : Grown library library :=
  of_shadows rfl rfl rfl

/-! ### Whole operations -/

theorem install (layer : Layer library) (file : ObjectFileId) :
    Grown library ((Logging.install file).apply library).2 := by
  rcases Logging.install_cases library file with
    same | ⟨base, _, active, ⟨_, applied⟩ | ⟨_, applied⟩⟩
  · rw [same]
    exact refl library
  · rw [applied]
    exact (refl library).logged (layer.known file base active) file
  · rw [applied]
    exact (refl library).remember (layer.known file base active) file

theorem uninstall (library : Library) (file : ObjectFileId) :
    Grown library ((Logging.uninstall file).apply library).2 := by
  rcases Logging.uninstall_cases library file with same | ⟨data, _, _, applied⟩
  · rw [same]
    exact refl library
  · rw [applied]
    exact (refl library).unlogged file data.base

theorem release (library : Library) (file : ObjectFileId) :
    Grown library ((Logging.release file).apply library).2 := by
  rcases Logging.release_cases library file with same | ⟨data, _, _, applied⟩
  · rw [same]
    exact refl library
  · rw [applied]
    exact (refl library).unlogged file data.base

theorem reset {table : TableRef} (known : library.HasTable table) (file : ObjectFileId) :
    Grown library (Logging.reset library file table) := by
  have cleared := (refl library).unlogged file table
  unfold Logging.reset
  split
  · exact cleared.logged known file
  · exact cleared

theorem walked {value : Bool} (layer : Layer library) (files : List ObjectFileId)
    (grown : Grown library after)
    (untouched : value = true → ∀ file, after.debugDataOf? file = none →
      after.tableOf? file = library.tableOf? file) :
    Grown library (Logging.walked value after files) := by
  induction files generalizing after with
  | nil => exact grown
  | cons file rest ih =>
    change Grown library (Logging.walked value (Logging.reconciled value after file) rest)
    unfold Logging.reconciled
    split
    · next base active clean =>
      cases value with
      | false => exact ih grown untouched
      | true =>
        have known := layer.known file base ((untouched rfl file clean).symm.trans active)
        refine ih (grown.logged known file) ?_
        intro _ other missing
        change (after.logged file base).debugDataOf? other = none at missing
        change (after.logged file base).tableOf? other = library.tableOf? other
        rw [Library.debugDataOf?_logged] at missing
        by_cases same : other = file
        · rw [if_pos same] at missing
          cases missing
        · rw [if_neg same] at missing
          rw [Library.tableOf?_logged_other _ base same]
          exact untouched rfl other missing
    · next base data active entry =>
      cases value with
      | false => exact ih (grown.unlogged file data.base) (fun impossible => by cases impossible)
      | true => exact ih grown untouched
    · exact ih grown untouched

theorem setDebug (sound : Sound library) (value : Bool) :
    Grown library ((Logging.setDebug value).apply library).2 := by
  rw [sound.apply_setDebug]
  have flipped : Grown library { library with debug := value } := of_shadows rfl rfl rfl
  exact flipped.walked sound.layer library.live fun _ _ _ => rfl

end Grown

/-! ### The statement about runs -/

variable {license : Operation → Prop} {world after : World}

theorem Relogging.grown (relogging : Relogging license world after) (sound : Sound world.library) :
    Grown world.library after.library := by
  cases relogging with
  | released file gone => exact Grown.release world.library file
  | installed file licensed => exact Grown.install sound.layer file
  | uninstalled file licensed => exact Grown.uninstall world.library file
  | tableSet file table licensed known accepted =>
    have afterEq := (sound.layer.setTable_accepted accepted).2
    change Grown world.library ((Logging.setTable file table).apply world.library).2
    rw [afterEq]
    exact Grown.reset known file
  | debugSet value => exact Grown.setDebug sound value

theorem Move.shadows_or_relogged (move : Move license world after) :
    after.library.shadows = world.library.shadows ∨ Relogging license world after := by
  cases move with
  | aside aside => exact Or.inl aside.unmoved.layer.shadows
  | relogged relogging => exact Or.inr relogging
  | fileAdded space name quick opened =>
    left
    change ((ProgramSpace.addObjectFile space name quick).apply world.library).2.shadows = _
    rw [ProgramSpace.apply_addObjectFile_of_open opened]
    rfl
  | fileStruck space file member =>
    left
    change ((ProgramSpace.strike space file).apply world.library).2.shadows = _
    rw [ProgramSpace.apply_strike_of_mem member]
    rfl
  | spaceCreated | fileDetached | spaceClosed | spaceForgotten => exact Or.inl rfl

/-! ### The hosts of shadows -/

section Hosts

variable {library : Library} {file : ObjectFileId} {index : Nat} {shadow : Shadow}

/-- Making an entry adds one shadow, for the file of the entry. -/
theorem host_of_remember {base : TableRef}
    (found : (library.remember file base).shadows[index]? = some shadow) :
    library.shadows[index]? = some shadow ∨ shadow.host = file := by
  change (library.shadows ++ [Shadow.build library base file])[index]? = some shadow at found
  rw [List.getElem?_append] at found
  split at found
  · exact Or.inl found
  · have shadowEq := List.mem_singleton.mp (List.mem_of_getElem? found)
    rw [shadowEq]
    exact Or.inr rfl

theorem host_mem_of_walked {value : Bool} {files : List ObjectFileId}
    (found : (Logging.walked value library files).shadows[index]? = some shadow) :
    library.shadows[index]? = some shadow ∨ shadow.host ∈ files := by
  induction files generalizing library with
  | nil => exact Or.inl found
  | cons head rest ih =>
    change (Logging.walked value (Logging.reconciled value library head) rest).shadows[index]? =
      some shadow at found
    rcases ih found with before | member
    · unfold Logging.reconciled at before
      split at before
      · next base _ _ =>
        cases value with
        | false => exact Or.inl before
        | true =>
          have remembered : (library.remember head base).shadows[index]? = some shadow := before
          rcases host_of_remember remembered with old | hostEq
          · exact Or.inl old
          · exact Or.inr (hostEq ▸ List.mem_cons_self ..)
      · cases value <;> exact Or.inl before
      · exact Or.inl before
    · exact Or.inr (List.mem_cons_of_mem _ member)

end Hosts

/-- Logging is put on object files that exist. -/
theorem Relogging.host_known (relogging : Relogging license world after)
    (sound : Sound world.library) {index : Nat} {shadow : Shadow}
    (found : after.library.shadows[index]? = some shadow) :
    world.library.shadows[index]? = some shadow ∨
      shadow.host.index < world.library.objectFiles.length := by
  cases relogging with
  | released file gone =>
    change ((Logging.release file).apply world.library).2.shadows[index]? = _ at found
    rcases Logging.release_cases world.library file with same | ⟨data, _, _, applied⟩
    · rw [same] at found
      exact Or.inl found
    · rw [applied] at found
      exact Or.inl found
  | installed file licensed =>
    change ((Logging.install file).apply world.library).2.shadows[index]? = _ at found
    rcases Logging.install_cases world.library file with same | ⟨base, _, active, applied⟩
    · rw [same] at found
      exact Or.inl found
    · have remembered : (world.library.remember file base).shadows[index]? = some shadow := by
        rcases applied with ⟨_, applied⟩ | ⟨_, applied⟩ <;> rwa [applied] at found
      rcases host_of_remember remembered with old | hostEq
      · exact Or.inl old
      · rw [hostEq]
        exact Or.inr (world.library.lt_of_isSome_tableOf? (by rw [active]; rfl))
  | uninstalled file licensed =>
    change ((Logging.uninstall file).apply world.library).2.shadows[index]? = _ at found
    rcases Logging.uninstall_cases world.library file with same | ⟨data, _, _, applied⟩
    · rw [same] at found
      exact Or.inl found
    · rw [applied] at found
      exact Or.inl found
  | tableSet file table licensed known accepted =>
    obtain ⟨attached, afterEq⟩ := sound.layer.setTable_accepted accepted
    change ((Logging.setTable file table).apply world.library).2.shadows[index]? = _ at found
    rw [afterEq] at found
    unfold Logging.reset at found
    split at found
    · have remembered : ((world.library.unlogged file table).remember file table).shadows[index]? =
          some shadow := found
      rcases host_of_remember remembered with old | hostEq
      · exact Or.inl old
      · rw [hostEq]
        exact Or.inr (world.library.lt_of_isAttached attached)
    · exact Or.inl found
  | debugSet value =>
    change ((Logging.setDebug value).apply world.library).2.shadows[index]? = _ at found
    rw [sound.apply_setDebug] at found
    rcases host_mem_of_walked found with old | member
    · exact Or.inl old
    · exact Or.inr (world.library.lt_of_isAttached (sound.isAttached_of_mem_live member))

/-- A shadow that a move has added was built from the library before the move. -/
theorem Move.built (move : Move license world after) (sound : Sound world.library) {index : Nat}
    {shadow : Shadow} (found : after.library.shadows[index]? = some shadow) :
    world.library.shadows[index]? = some shadow ∨
      world.library.shadows.length ≤ index ∧ world.library.HasTable shadow.base ∧
        shadow = Shadow.build world.library shadow.base shadow.host := by
  rcases move.shadows_or_relogged with same | relogging
  · rw [same] at found
    exact Or.inl found
  · have grown := relogging.grown sound
    by_cases beyond : world.library.shadows.length ≤ index
    · exact Or.inr ⟨beyond, grown.fresh index shadow beyond found⟩
    · have known : index < world.library.shadows.length := Nat.lt_of_not_le beyond
      exact Or.inl ((getElem?_shadows_of_added grown.shadows known).symm.trans found)

theorem Path.shadows (path : Path license world after) (sound : Sound world.library) :
    world.library.shadows <+: after.library.shadows := by
  induction path with
  | refl => exact List.prefix_rfl
  | tail earlier move ih =>
    rcases move.shadows_or_relogged with same | relogging
    · rw [same]
      exact ih
    · exact ih.trans (relogging.grown (Path.sound earlier sound)).shadows

/-- Every shadow was built by one move of the run. -/
theorem Begun.building (begun : Begun license world) {index : Nat} {shadow : Shadow}
    (found : world.library.shadows[index]? = some shadow) :
    ∃ past next, Begun license past ∧ Move license past next ∧ Path license next world ∧
      past.library.shadows.length ≤ index ∧ next.library.shadows[index]? = some shadow ∧
      past.library.HasTable shadow.base ∧
      shadow = Shadow.build past.library shadow.base shadow.host := by
  induction begun with
  | refl => cases found
  | @tail world after earlier move ih =>
    rcases move.built (Begun.sound earlier) found with old | ⟨beyond, known, built⟩
    · obtain ⟨past, next, reached, builds, since, made⟩ := ih old
      exact ⟨past, next, reached, builds, since.tail move, made⟩
    · exact ⟨world, after, earlier, move, .refl, beyond, found, known, built⟩

/-- Every shadow was built at an earlier point of the run. -/
theorem Begun.origin (begun : Begun license world) {index : Nat} {shadow : Shadow}
    (found : world.library.shadows[index]? = some shadow) :
    ∃ past, Begun license past ∧ Path license past world ∧ past.library.HasTable shadow.base ∧
      shadow = Shadow.build past.library shadow.base shadow.host := by
  obtain ⟨past, next, reached, builds, since, _, _, known, built⟩ := begun.building found
  exact ⟨past, reached, since.head builds, known, built⟩

end ReaderTrace
