import ReaderTrace.Logging

/-!
What the reads of the library's state show after each kind of change.

Logging changes the state in three ways: a shadow is built and remembered, an
entry of the side table is cleared, and the active table of an object file is
assigned. Everything that logging leaves alone is the bare library; two states
with the same bare library answer alike to every read that is not about tables.
-/

namespace ReaderTrace

/-! ### The bare library -/

/-- An object file without its active table. -/
def ObjectFile.bare (file : ObjectFile) : ObjectFile :=
  { file with table := none }

namespace Library

/-- What logging leaves alone. -/
def bare (library : Library) : Library :=
  { library with
    debug := false
    objectFiles := library.objectFiles.map ObjectFile.bare
    debugData := .empty
    shadows := [] }

variable (library : Library)

theorem objectFile?_bare (file : ObjectFileId) :
    library.bare.objectFile? file = (library.objectFile? file).map ObjectFile.bare := by
  simp [objectFile?, bare]

@[simp] theorem isAttached_bare (file : ObjectFileId) :
    library.bare.isAttached file = library.isAttached file := by
  unfold isAttached
  rw [objectFile?_bare, Option.map_map]
  rfl

@[simp] theorem debugName_bare (file : ObjectFileId) :
    library.bare.debugName file = library.debugName file := by
  unfold debugName
  rw [objectFile?_bare, Option.map_map]
  rfl

theorem debugName_of_bare {library after : Library} (same : after.bare = library.bare)
    (file : ObjectFileId) : after.debugName file = library.debugName file := by
  rw [← after.debugName_bare, same, library.debugName_bare]

@[simp] theorem partialSymbolsRead_bare (file : ObjectFileId) :
    library.bare.partialSymbolsRead file = library.partialSymbolsRead file := by
  unfold partialSymbolsRead
  rw [objectFile?_bare, Option.map_map]
  rfl

@[simp] theorem quickOf?_bare (file : ObjectFileId) :
    library.bare.quickOf? file = library.quickOf? file := by
  unfold quickOf?
  rw [objectFile?_bare]
  cases library.objectFile? file <;> rfl

@[simp] theorem owned_bare (space : SpaceId) : library.bare.owned space = library.owned space :=
  rfl

@[simp] theorem registry_bare : library.bare.registry = library.registry :=
  rfl

@[simp] theorem length_objectFiles_bare :
    library.bare.objectFiles.length = library.objectFiles.length := by
  simp [bare]

/-! ### Changes of one object file -/

theorem objectFile?_modifyObjectFile (file other : ObjectFileId)
    (change : ObjectFile → ObjectFile) :
    (library.modifyObjectFile file change).objectFile? other =
      if other = file then (library.objectFile? file).map change
      else library.objectFile? other := by
  unfold objectFile? modifyObjectFile
  by_cases same : other = file
  · subst other
    rw [if_pos rfl, List.getElem?_modify_eq]
    rfl
  · rw [if_neg same]
    apply List.getElem?_modify_ne
    intro indexEq
    exact same (by cases other; cases file; simp_all)

section Kept

variable {file : ObjectFileId} {change : ObjectFile → ObjectFile}

theorem map_objectFiles_of_kept {β : Type} {view : ObjectFile → β}
    (kept : ∀ record, view (change record) = view record) :
    (library.modifyObjectFile file change).objectFiles.map view =
      library.objectFiles.map view := by
  apply List.ext_getElem?
  intro index
  have read := library.objectFile?_modifyObjectFile file { index := index } change
  unfold objectFile? at read
  rw [List.getElem?_map, List.getElem?_map, read]
  split
  · next same =>
    subst file
    rw [Option.map_map]
    exact Option.map_congr fun record _ => kept record
  · rfl

theorem bare_modifyObjectFile (file : ObjectFileId) {change : ObjectFile → ObjectFile}
    (commutes : ∀ record, (change record).bare = change record.bare) :
    (library.modifyObjectFile file change).bare = library.bare.modifyObjectFile file change := by
  have filesEq : (library.objectFiles.modify file.index change).map ObjectFile.bare =
      (library.objectFiles.map ObjectFile.bare).modify file.index change := by
    apply List.ext_getElem?
    intro index
    rw [List.getElem?_map, List.getElem?_modify, List.getElem?_modify, List.getElem?_map]
    cases library.objectFiles[index]? with
    | none => rfl
    | some record =>
      by_cases same : file.index = index
      · simp [same, commutes record]
      · simp [same]
  unfold bare modifyObjectFile
  rw [filesEq]

theorem tableOf?_of_kept (kept : ∀ record, (change record).table = record.table)
    (other : ObjectFileId) :
    (library.modifyObjectFile file change).tableOf? other = library.tableOf? other := by
  unfold tableOf?
  rw [objectFile?_modifyObjectFile]
  split
  · next same =>
    subst same
    cases library.objectFile? other with
    | none => rfl
    | some record => exact kept record
  · rfl

theorem debugName_of_kept (kept : ∀ record, (change record).name = record.name)
    (other : ObjectFileId) :
    (library.modifyObjectFile file change).debugName other = library.debugName other := by
  unfold debugName
  rw [objectFile?_modifyObjectFile]
  split
  · next same =>
    subst same
    rw [Option.map_map]
    exact congrArg (Option.getD · "")
      (Option.map_congr fun record _ => congrArg BaseName.ofPath (kept record))
  · rfl

end Kept

theorem isSome_objectFile?_of_isAttached {file : ObjectFileId}
    (attached : library.isAttached file = true) : (library.objectFile? file).isSome = true := by
  unfold isAttached at attached
  cases found : library.objectFile? file with
  | none => simp [found] at attached
  | some record => rfl

theorem lt_of_isSome_objectFile? {file : ObjectFileId}
    (present : (library.objectFile? file).isSome = true) :
    file.index < library.objectFiles.length := by
  unfold objectFile? at present
  simpa using present

theorem lt_of_isAttached {file : ObjectFileId} (attached : library.isAttached file = true) :
    file.index < library.objectFiles.length :=
  library.lt_of_isSome_objectFile? (library.isSome_objectFile?_of_isAttached attached)

theorem lt_of_isSome_tableOf? {file : ObjectFileId}
    (active : (library.tableOf? file).isSome = true) :
    file.index < library.objectFiles.length := by
  apply library.lt_of_isSome_objectFile?
  unfold tableOf? at active
  cases found : library.objectFile? file with
  | none => simp [found] at active
  | some record => rfl

/-! ### Assigning the active table -/

def withTable (file : ObjectFileId) (table : TableRef) : Library :=
  library.modifyObjectFile file fun record => { record with table := some table }

theorem tableOf?_withTable_self {file : ObjectFileId} (table : TableRef)
    (attached : library.isAttached file = true) :
    (library.withTable file table).tableOf? file = some table := by
  obtain ⟨record, found⟩ :=
    Option.isSome_iff_exists.mp (library.isSome_objectFile?_of_isAttached attached)
  unfold tableOf? withTable
  rw [objectFile?_modifyObjectFile, if_pos rfl, found]
  rfl

theorem tableOf?_withTable_other {file other : ObjectFileId} (table : TableRef)
    (different : other ≠ file) :
    (library.withTable file table).tableOf? other = library.tableOf? other := by
  unfold tableOf? withTable
  rw [objectFile?_modifyObjectFile, if_neg different]

@[simp] theorem bare_withTable (file : ObjectFileId) (table : TableRef) :
    (library.withTable file table).bare = library.bare := by
  have sameFiles :
      (library.withTable file table).objectFiles.map ObjectFile.bare =
        library.objectFiles.map ObjectFile.bare :=
    library.map_objectFiles_of_kept fun _ => rfl
  unfold bare
  rw [sameFiles]
  rfl

theorem withTable_withTable (file : ObjectFileId) (first second : TableRef) :
    (library.withTable file first).withTable file second = library.withTable file second := by
  unfold withTable modifyObjectFile
  simp only [List.modify_modify_eq]
  rfl

/-! ### Remembering a shadow -/

def nextShadow : TableRef :=
  .shadow { index := library.shadows.length }

/-- The library after a shadow of `base` has been built for `file` and
remembered. -/
def remember (file : ObjectFileId) (base : TableRef) : Library :=
  { library with
    shadows := library.shadows ++ [Shadow.build library base file]
    debugData := library.debugData.associate file { base := base, shadow := library.nextShadow } }

theorem debugDataOf?_remember (file other : ObjectFileId) (base : TableRef) :
    (library.remember file base).debugDataOf? other =
      if other = file then some { base := base, shadow := library.nextShadow }
      else library.debugDataOf? other :=
  library.debugData.lookup_associate file other _

/-- The library after logging has been put on `file`, whose active table was
`base`. -/
def logged (file : ObjectFileId) (base : TableRef) : Library :=
  (library.remember file base).withTable file library.nextShadow

@[simp] theorem bare_remember (file : ObjectFileId) (base : TableRef) :
    (library.remember file base).bare = library.bare :=
  rfl

@[simp] theorem bare_logged (file : ObjectFileId) (base : TableRef) :
    (library.logged file base).bare = library.bare := by
  unfold logged
  rw [bare_withTable, bare_remember]

/-! ### Clearing an entry -/

/-- The library after `table` has become the active table of `file`, with no
logging on it. -/
def unlogged (file : ObjectFileId) (table : TableRef) : Library :=
  { library.withTable file table with debugData := library.debugData.clear file }

theorem debugDataOf?_unlogged (file other : ObjectFileId) (table : TableRef) :
    (library.unlogged file table).debugDataOf? other =
      if other = file then none else library.debugDataOf? other :=
  library.debugData.lookup_clear file other

@[simp] theorem bare_unlogged (file : ObjectFileId) (table : TableRef) :
    (library.unlogged file table).bare = library.bare :=
  library.bare_withTable file table

theorem withTable_eq_unlogged {file : ObjectFileId} (table : TableRef)
    (clean : library.debugDataOf? file = none) :
    library.withTable file table = library.unlogged file table := by
  unfold unlogged
  rw [library.debugData.clear_of_lookup_eq_none clean]
  rfl

theorem unlogged_unlogged (file : ObjectFileId) (first second : TableRef) :
    (library.unlogged file first).unlogged file second = library.unlogged file second := by
  have clean : (library.unlogged file first).debugDataOf? file = none := by
    rw [debugDataOf?_unlogged, if_pos rfl]
  rw [← (library.unlogged file first).withTable_eq_unlogged second clean]
  have assigned := library.withTable_withTable file first second
  unfold unlogged
  rw [← assigned]
  rfl

@[simp] theorem isAttached_unlogged (file other : ObjectFileId) (table : TableRef) :
    (library.unlogged file table).isAttached other = library.isAttached other := by
  rw [← isAttached_bare, bare_unlogged, isAttached_bare]

@[simp] theorem isAttached_logged (file other : ObjectFileId) (base : TableRef) :
    (library.logged file base).isAttached other = library.isAttached other := by
  rw [← isAttached_bare, bare_logged, isAttached_bare]

/-! ### Tables and entries after logging -/

theorem tableOf?_logged_self {file : ObjectFileId} (base : TableRef)
    (attached : library.isAttached file = true) :
    (library.logged file base).tableOf? file = some library.nextShadow :=
  (library.remember file base).tableOf?_withTable_self library.nextShadow attached

theorem tableOf?_logged_other {file other : ObjectFileId} (base : TableRef)
    (different : other ≠ file) :
    (library.logged file base).tableOf? other = library.tableOf? other :=
  (library.remember file base).tableOf?_withTable_other library.nextShadow different

theorem debugDataOf?_logged (file other : ObjectFileId) (base : TableRef) :
    (library.logged file base).debugDataOf? other =
      if other = file then some { base := base, shadow := library.nextShadow }
      else library.debugDataOf? other :=
  library.debugDataOf?_remember file other base

theorem tableOf?_unlogged_self {file : ObjectFileId} (table : TableRef)
    (attached : library.isAttached file = true) :
    (library.unlogged file table).tableOf? file = some table :=
  library.tableOf?_withTable_self table attached

theorem tableOf?_unlogged_other {file other : ObjectFileId} (table : TableRef)
    (different : other ≠ file) :
    (library.unlogged file table).tableOf? other = library.tableOf? other :=
  library.tableOf?_withTable_other table different

/-! ### What is installed -/

theorem isInstalled_eq (file : ObjectFileId) :
    library.isInstalled file =
      ((library.tableOf? file).isSome && (library.debugDataOf? file).isSome) :=
  rfl

theorem isInstalled_of_no_entry {file : ObjectFileId}
    (clean : library.debugDataOf? file = none) : library.isInstalled file = false := by
  rw [isInstalled_eq, clean]
  exact Bool.and_false _

theorem exists_entry_of_isInstalled {file : ObjectFileId}
    (installed : library.isInstalled file = true) :
    ∃ data, library.debugDataOf? file = some data := by
  rw [isInstalled_eq, Bool.and_eq_true] at installed
  exact Option.isSome_iff_exists.mp installed.2

/-! ### The base table -/

/-- The table under the logging of `file`: the one that its shadow stands in
for while logging is installed, and the active one otherwise. -/
def baseOf? (file : ObjectFileId) : Option TableRef :=
  match library.debugDataOf? file with
  | some data => some data.base
  | none => library.tableOf? file

end Library

end ReaderTrace
