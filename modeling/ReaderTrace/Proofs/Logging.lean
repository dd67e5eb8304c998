import ReaderTrace.Proofs.State

/-!
What each logging operation does, as one equation or one set of facts each.

An operation either fails and changes nothing that is live, or ends in one of
the states that `Proofs.State` names.
-/

namespace ReaderTrace

open Edit

theorem Edit.apply_assignTable (library : Library) (file : ObjectFileId) (table : TableRef) :
    (assignTable file table).apply library =
      if library.isAttached file then (.ok (), library.withTable file table)
      else (.error (.fault (.assertion (.notAttached (library.debugName file)))), library) := by
  unfold assignTable
  simp only [apply_bind, apply_get, apply_require]
  cases library.isAttached file <;> rfl

namespace Logging

theorem apply_install (library : Library) (file : ObjectFileId) :
    (install file).apply library =
      if library.isInstalled file then
        (.error (.fault (.assertion (.loggingInstalled (library.debugName file)))), library)
      else
        match library.tableOf? file with
        | none => (.error (.fault (.assertion (.noTableToLog (library.debugName file)))), library)
        | some base =>
            if library.isAttached file then (.ok (), library.logged file base)
            else
              (.error (.fault (.assertion (.notAttached (library.debugName file)))),
                library.remember file base) := by
  unfold install
  simp only [apply_bind, apply_get, apply_require]
  cases library.isInstalled file with
  | true => rfl
  | false =>
    cases library.tableOf? file with
    | none => rfl
    | some base =>
      change (assignTable file library.nextShadow).apply (library.remember file base) = _
      rw [apply_assignTable]
      rfl

theorem apply_uninstall (library : Library) (file : ObjectFileId) :
    (uninstall file).apply library =
      if library.isInstalled file then
        match library.debugDataOf? file with
        | none =>
            (.error (.fault (.assertion (.loggingNotInstalled (library.debugName file)))), library)
        | some data =>
            if library.isAttached file then (.ok (), library.unlogged file data.base)
            else (.error (.fault (.assertion (.notAttached (library.debugName file)))), library)
      else
        (.error (.fault (.assertion (.loggingNotInstalled (library.debugName file)))), library) := by
  unfold uninstall
  simp only [apply_bind, apply_get, apply_require]
  cases library.isInstalled file with
  | false => rfl
  | true =>
    cases library.debugDataOf? file with
    | none => rfl
    | some data =>
      simp only [if_true, apply_bind, apply_assignTable, apply_modify]
      cases library.isAttached file <;> rfl

theorem apply_release (library : Library) (file : ObjectFileId) :
    (release file).apply library =
      if library.isInstalled file then (uninstall file).apply library else (.ok (), library) := by
  unfold release
  rw [apply_bind, apply_get]
  cases installed : library.isInstalled file <;> simp only [installed] <;> rfl

/-- What is left after logging was to be put on. An entry may be left for a file
whose table can no longer be assigned. -/
theorem install_cases (library : Library) (file : ObjectFileId) :
    ((install file).apply library).2 = library ∨
      ∃ base, library.isInstalled file = false ∧ library.tableOf? file = some base ∧
        (library.isAttached file = true ∧
            ((install file).apply library).2 = library.logged file base ∨
          library.isAttached file = false ∧
            ((install file).apply library).2 = library.remember file base) := by
  rw [apply_install]
  cases library.isInstalled file with
  | true => exact Or.inl rfl
  | false =>
    cases library.tableOf? file with
    | none => exact Or.inl rfl
    | some base =>
      cases library.isAttached file with
      | true => exact Or.inr ⟨base, rfl, rfl, Or.inl ⟨rfl, rfl⟩⟩
      | false => exact Or.inr ⟨base, rfl, rfl, Or.inr ⟨rfl, rfl⟩⟩

/-- What is left after logging was to be taken off. -/
theorem uninstall_cases (library : Library) (file : ObjectFileId) :
    ((uninstall file).apply library).2 = library ∨
      ∃ data, library.debugDataOf? file = some data ∧ library.isAttached file = true ∧
        ((uninstall file).apply library).2 = library.unlogged file data.base := by
  rw [apply_uninstall]
  cases library.isInstalled file with
  | false => exact Or.inl rfl
  | true =>
    cases library.debugDataOf? file with
    | none => exact Or.inl rfl
    | some data =>
      cases library.isAttached file with
      | true => exact Or.inr ⟨data, rfl, rfl, rfl⟩
      | false => exact Or.inl rfl

theorem release_cases (library : Library) (file : ObjectFileId) :
    ((release file).apply library).2 = library ∨
      ∃ data, library.debugDataOf? file = some data ∧ library.isAttached file = true ∧
        ((release file).apply library).2 = library.unlogged file data.base := by
  rw [apply_release]
  split
  · exact uninstall_cases library file
  · exact Or.inl rfl

@[simp] theorem bare_install (library : Library) (file : ObjectFileId) :
    ((install file).apply library).2.bare = library.bare := by
  rcases install_cases library file with same | ⟨base, _, _, ⟨_, applied⟩ | ⟨_, applied⟩⟩
  · rw [same]
  · rw [applied]
    exact library.bare_logged file base
  · rw [applied]
    exact library.bare_remember file base

@[simp] theorem bare_uninstall (library : Library) (file : ObjectFileId) :
    ((uninstall file).apply library).2.bare = library.bare := by
  rcases uninstall_cases library file with same | ⟨data, _, _, applied⟩
  · rw [same]
  · rw [applied]
    exact library.bare_unlogged file data.base

@[simp] theorem bare_release (library : Library) (file : ObjectFileId) :
    ((release file).apply library).2.bare = library.bare := by
  rcases release_cases library file with same | ⟨data, _, _, applied⟩
  · rw [same]
  · rw [applied]
    exact library.bare_unlogged file data.base

/-! ### The gated setter -/

/-- What `setTable` makes of a library in which it may set the table. -/
def reset (library : Library) (file : ObjectFileId) (table : TableRef) : Library :=
  if library.debug then (library.unlogged file table).logged file table
  else library.unlogged file table

@[simp] theorem bare_reset (library : Library) (file : ObjectFileId) (table : TableRef) :
    (reset library file table).bare = library.bare := by
  unfold reset
  split
  · rw [Library.bare_logged, Library.bare_unlogged]
  · exact library.bare_unlogged file table

/-- The second half of `setTable`: the table is assigned and logging put on. -/
private def assignAndInstall (debug : Bool) (file : ObjectFileId) (table : TableRef) :
    Edit Unit := do
  assignTable file table
  if debug then
    install file

private theorem apply_assignAndInstall {library : Library} {file : ObjectFileId} (debug : Bool)
    (table : TableRef) (clean : library.debugDataOf? file = none) :
    (assignAndInstall debug file table).apply library =
      if library.isAttached file then
        (.ok (), if debug then (library.unlogged file table).logged file table
          else library.unlogged file table)
      else (.error (.fault (.assertion (.notAttached (library.debugName file)))), library) := by
  unfold assignAndInstall
  rw [apply_bind, apply_assignTable, library.withTable_eq_unlogged table clean]
  cases attached : library.isAttached file with
  | false => rfl
  | true =>
    cases debug with
    | false => rfl
    | true =>
      have cleanAfter : (library.unlogged file table).debugDataOf? file = none := by
        rw [Library.debugDataOf?_unlogged, if_pos rfl]
      have active := library.tableOf?_unlogged_self table attached
      change (install file).apply (library.unlogged file table) = _
      rw [apply_install, Library.isInstalled_of_no_entry _ cleanAfter, active,
        Library.isAttached_unlogged, attached]
      rfl

private theorem apply_setTable_of_not_installed {library : Library} {file : ObjectFileId}
    (table : TableRef) (notInstalled : library.isInstalled file = false) :
    (setTable file table).apply library =
      (assignAndInstall library.debug file table).apply library := by
  unfold setTable
  simp only [apply_bind, apply_get, notInstalled]
  rfl

private theorem apply_setTable_of_installed {library : Library} {file : ObjectFileId}
    (table : TableRef) (installed : library.isInstalled file = true) :
    (setTable file table).apply library =
      (do
        require library.debug (.loggingInstalledWhileOff (library.debugName file))
        uninstall file
        assignAndInstall library.debug file table : Edit Unit).apply library := by
  unfold setTable
  simp only [assignAndInstall, apply_bind, apply_get, installed, if_true]

/-- The setter refuses an object file that is logged while the debug setting is
off, and one whose table can no longer be assigned; otherwise it sets the
table. -/
theorem apply_setTable {library : Library} {file : ObjectFileId} (table : TableRef)
    (active : ∀ data, library.debugDataOf? file = some data →
      (library.tableOf? file).isSome = true) :
    (setTable file table).apply library =
      if library.isInstalled file && !library.debug then
        (.error (.fault (.assertion (.loggingInstalledWhileOff (library.debugName file)))), library)
      else if library.isAttached file then (.ok (), reset library file table)
      else (.error (.fault (.assertion (.notAttached (library.debugName file)))), library) := by
  cases entry : library.debugDataOf? file with
  | none =>
    have notInstalled := library.isInstalled_of_no_entry entry
    rw [apply_setTable_of_not_installed table notInstalled, notInstalled,
      apply_assignAndInstall library.debug table entry]
    rfl
  | some data =>
    have installed : library.isInstalled file = true := by
      rw [Library.isInstalled_eq, active data entry, entry]
      rfl
    rw [apply_setTable_of_installed table installed, apply_bind, apply_require, installed]
    cases debug : library.debug with
    | false => rfl
    | true =>
      simp only [if_true, apply_bind, apply_uninstall, installed, entry]
      cases attached : library.isAttached file with
      | false => rfl
      | true =>
        have cleanAfter : (library.unlogged file data.base).debugDataOf? file = none := by
          rw [Library.debugDataOf?_unlogged, if_pos rfl]
        have second := apply_assignAndInstall true table cleanAfter
        rw [Library.isAttached_unlogged, attached, Library.unlogged_unlogged] at second
        change (assignAndInstall true file table).apply (library.unlogged file data.base) = _
        rw [second]
        unfold reset
        rw [debug]
        rfl

/-! ### The walk over the live object files -/

/-- What `reconcile` makes of a library in which the file's table can be
assigned. -/
def reconciled (value : Bool) (library : Library) (file : ObjectFileId) : Library :=
  match library.tableOf? file, library.debugDataOf? file with
  | some base, none => if value then library.logged file base else library
  | some _, some data => if value then library else library.unlogged file data.base
  | none, _ => library

theorem apply_reconcile {library : Library} {file : ObjectFileId} (value : Bool)
    (attached : library.isAttached file = true) :
    (reconcile value file).apply library = (.ok (), reconciled value library file) := by
  unfold reconcile reconciled
  rw [apply_bind, apply_get]
  cases active : library.tableOf? file with
  | none =>
    simp only [active]
    rfl
  | some base =>
    cases entry : library.debugDataOf? file with
    | none =>
      have notInstalled := library.isInstalled_of_no_entry entry
      cases value with
      | false =>
        simp only [active, notInstalled]
        rfl
      | true =>
        have installs := apply_install library file
        simp only [notInstalled, active, attached] at installs
        simp only [active, notInstalled]
        exact installs
    | some data =>
      have installed : library.isInstalled file = true := by
        rw [Library.isInstalled_eq, active, entry]
        rfl
      cases value with
      | false =>
        have uninstalls := apply_uninstall library file
        simp only [installed, entry, attached] at uninstalls
        simp only [active, installed]
        exact uninstalls
      | true =>
        simp only [active, installed]
        rfl

@[simp] theorem bare_reconciled (value : Bool) (library : Library) (file : ObjectFileId) :
    (reconciled value library file).bare = library.bare := by
  unfold reconciled
  split
  · cases value with
    | false => rfl
    | true => exact library.bare_logged file _
  · cases value with
    | false => exact library.bare_unlogged file _
    | true => rfl
  · rfl

@[simp] theorem isAttached_reconciled (value : Bool) (library : Library)
    (file other : ObjectFileId) :
    (reconciled value library file).isAttached other = library.isAttached other := by
  rw [← Library.isAttached_bare, bare_reconciled, Library.isAttached_bare]

/-- The walk from a library in which the debug setting is already changed. -/
def walked (value : Bool) (library : Library) (files : List ObjectFileId) : Library :=
  files.foldl (reconciled value) library

@[simp] theorem bare_walked (value : Bool) (library : Library) (files : List ObjectFileId) :
    (walked value library files).bare = library.bare := by
  induction files generalizing library with
  | nil => rfl
  | cons file rest ih => exact (ih (reconciled value library file)).trans (bare_reconciled ..)

private theorem apply_walk {library : Library} (value : Bool) (files : List ObjectFileId)
    (attached : ∀ file ∈ files, library.isAttached file = true) :
    (files.forM (reconcile value)).apply library = (.ok (), walked value library files) := by
  induction files generalizing library with
  | nil => rfl
  | cons file rest ih =>
    have head := apply_reconcile value (attached file (List.mem_cons_self ..))
    have tailAttached :
        ∀ other ∈ rest, (reconciled value library file).isAttached other = true := by
      intro other member
      rw [isAttached_reconciled]
      exact attached other (List.mem_cons_of_mem _ member)
    change (do reconcile value file; rest.forM (reconcile value) : Edit Unit).apply library = _
    rw [apply_bind, head]
    exact ih tailAttached

/-- Changing the debug setting never fails while every live object file can
still be given a table. -/
theorem apply_setDebug {library : Library} (value : Bool)
    (attached : ∀ file ∈ library.live, library.isAttached file = true) :
    (setDebug value).apply library =
      (.ok (), walked value { library with debug := value } library.live) := by
  unfold setDebug
  rw [apply_bind, apply_modify]
  exact apply_walk value library.live attached

end Logging

end ReaderTrace
