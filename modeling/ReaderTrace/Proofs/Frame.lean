import ReaderTrace.Proofs.Course

/-!
What an operation on one object file does to the others, which is nothing.

Logging is put on and taken off one file at a time, and every other file keeps
its active table and its entry. Moves that have to do with neither keep the
table and the entry of every file.
-/

namespace ReaderTrace

/-- The two libraries hold the same table and the same entry for a file. -/
structure SameAt (library after : Library) (file : ObjectFileId) : Prop where
  table : after.tableOf? file = library.tableOf? file
  entry : after.debugDataOf? file = library.debugDataOf? file

namespace SameAt

variable {library after : Library} {file other : ObjectFileId}

theorem refl (library : Library) (file : ObjectFileId) : SameAt library library file :=
  ⟨rfl, rfl⟩

theorem trans {middle : Library} (first : SameAt library middle file)
    (second : SameAt middle after file) : SameAt library after file :=
  ⟨second.table.trans first.table, second.entry.trans first.entry⟩

theorem baseOf? (same : SameAt library after file) : after.baseOf? file = library.baseOf? file := by
  unfold Library.baseOf?
  rw [same.entry, same.table]

theorem logged (base : TableRef) (different : other ≠ file) :
    SameAt library (library.logged file base) other := by
  refine ⟨library.tableOf?_logged_other base different, ?_⟩
  rw [Library.debugDataOf?_logged, if_neg different]

theorem remember (base : TableRef) (different : other ≠ file) :
    SameAt library (library.remember file base) other := by
  refine ⟨rfl, ?_⟩
  rw [Library.debugDataOf?_remember, if_neg different]

theorem unlogged (table : TableRef) (different : other ≠ file) :
    SameAt library (library.unlogged file table) other := by
  refine ⟨library.tableOf?_unlogged_other table different, ?_⟩
  rw [Library.debugDataOf?_unlogged, if_neg different]

theorem install (different : other ≠ file) :
    SameAt library ((Logging.install file).apply library).2 other := by
  rcases Logging.install_cases library file with
    same | ⟨base, _, _, ⟨_, applied⟩ | ⟨_, applied⟩⟩
  · rw [same]
    exact refl library other
  · rw [applied]
    exact logged base different
  · rw [applied]
    exact remember base different

theorem uninstall (different : other ≠ file) :
    SameAt library ((Logging.uninstall file).apply library).2 other := by
  rcases Logging.uninstall_cases library file with same | ⟨data, _, _, applied⟩
  · rw [same]
    exact refl library other
  · rw [applied]
    exact unlogged data.base different

theorem release (different : other ≠ file) :
    SameAt library ((Logging.release file).apply library).2 other := by
  rcases Logging.release_cases library file with same | ⟨data, _, _, applied⟩
  · rw [same]
    exact refl library other
  · rw [applied]
    exact unlogged data.base different

theorem reset (table : TableRef) (different : other ≠ file) :
    SameAt library (Logging.reset library file table) other := by
  have cleared : SameAt library (library.unlogged file table) other := unlogged table different
  unfold Logging.reset
  split
  · exact cleared.trans (logged table different)
  · exact cleared

theorem reconciled (value : Bool) (different : other ≠ file) :
    SameAt library (Logging.reconciled value library file) other := by
  unfold Logging.reconciled
  split
  · cases value with
    | false => exact refl library other
    | true => exact logged _ different
  · cases value with
    | false => exact unlogged _ different
    | true => exact refl library other
  · exact refl library other

theorem withFile (library : Library) (space : SpaceId) (name : String) (quick : Option QuickId)
    (file : ObjectFileId) :
    SameAt library (ProgramSpace.withFile library space name quick) file :=
  ⟨ProgramSpace.tableOf?_withFile library space name quick file, rfl⟩

end SameAt

/-! ### Moves that do not log -/

/-- The table that a milestone says was set for an object file. -/
def Milestone.tableFor? (file : ObjectFileId) : Milestone → Option TableRef
  | .tableSet other table => if other = file then some table else none
  | .destroyed _ => none

/-- A move that has to do with neither tables nor entries. Object files that it
lists anew have no table. -/
structure Quiet (world after : World) : Prop where
  same : ∀ file, SameAt world.library after.library file
  debug : after.library.debug = world.library.debug
  milestones : ∃ added, after.milestones = world.milestones ++ added ∧
    ∀ milestone ∈ added, ∀ file, milestone.tableFor? file = none
  listed : ∀ file, after.library.Lists file →
    world.library.Lists file ∨ world.library.tableOf? file = none

namespace Quiet

variable {world after : World}

theorem of_library {library : Library} (same : ∀ file, SameAt world.library library file)
    (debug : library.debug = world.library.debug)
    (listed : ∀ file, library.Lists file →
      world.library.Lists file ∨ world.library.tableOf? file = none) :
    Quiet world { world with library := library } :=
  ⟨same, debug, ⟨[], (List.append_nil _).symm, fun _ member => by cases member⟩, listed⟩

theorem of_unmoved (unmoved : Unmoved world after) : Quiet world after := by
  refine ⟨?_, unmoved.debug, ?_, ?_⟩
  · intro file
    refine ⟨unmoved.layer.tables file, ?_⟩
    unfold Library.debugDataOf?
    rw [unmoved.layer.debugData]
  · refine ⟨[], ?_, fun _ member => by cases member⟩
    rw [unmoved.milestones, List.append_nil]
  · intro file ⟨space, member⟩
    rw [Library.owned_of_roster unmoved.roster] at member
    exact Or.inl ⟨space, member⟩

theorem added {space : SpaceId} (name : String) (quick : Option QuickId)
    (opened : world.library.isDisposed space = false) :
    Quiet world (world.after (ProgramSpace.addObjectFile space name quick)) := by
  have afterEq : world.after (ProgramSpace.addObjectFile space name quick) =
      { world with library := ProgramSpace.withFile world.library space name quick } := by
    unfold World.after
    rw [ProgramSpace.apply_addObjectFile_of_open opened]
  rw [afterEq]
  refine of_library (SameAt.withFile world.library space name quick) rfl ?_
  intro file ⟨other, member⟩
  rcases ProgramSpace.mem_owned_withFile world.library opened member with old | ⟨new, _⟩
  · exact Or.inl ⟨other, old⟩
  · right
    subst new
    have missing : world.library.objectFile? (ProgramSpace.nextFile world.library) = none :=
      List.getElem?_eq_none (Nat.le_refl _)
    unfold Library.tableOf?
    rw [missing]
    rfl

theorem struck {space : SpaceId} {file : ObjectFileId}
    (member : file ∈ world.library.owned space) :
    Quiet world ((world.after (ProgramSpace.strike space file)).note (.reached (.destroyed file))) := by
  have afterEq : world.after (ProgramSpace.strike space file) =
      { world with library := ProgramSpace.struck world.library space file } := by
    unfold World.after
    rw [ProgramSpace.apply_strike_of_mem member]
  rw [afterEq]
  refine ⟨fun other => ⟨rfl, rfl⟩, rfl, ⟨[.destroyed file], World.milestones_note _ _, ?_⟩, ?_⟩
  · intro milestone isAdded
    rw [List.mem_singleton.mp isAdded]
    exact fun _ => rfl
  · intro other ⟨listing, listed⟩
    exact Or.inl ⟨listing, ProgramSpace.mem_owned_of_mem_owned_struck world.library listed⟩

end Quiet

variable {license : Operation → Prop} {world after : World}

theorem Move.quiet_or_relogged (move : Move license world after) :
    Quiet world after ∨ Relogging license world after := by
  cases move with
  | aside aside => exact Or.inl (.of_unmoved aside.unmoved)
  | relogged relogging => exact Or.inr relogging
  | spaceCreated name =>
    refine Or.inl (.of_library (fun _ => ⟨rfl, rfl⟩) rfl fun file ⟨space, member⟩ => ?_)
    rw [ProgramSpace.owned_create] at member
    exact Or.inl ⟨space, member⟩
  | fileAdded space name quick opened => exact Or.inl (.added name quick opened)
  | fileStruck space file member => exact Or.inl (.struck member)
  | fileDetached file gone =>
    have tables : ∀ other,
        (world.library.modifyObjectFile file fun record =>
          { record with attached := false }).tableOf? other = world.library.tableOf? other :=
      world.library.tableOf?_of_kept fun _ => rfl
    exact Or.inl (.of_library (fun other => ⟨tables other, rfl⟩) rfl fun _ listed => Or.inl listed)
  | spaceClosed space opened =>
    refine Or.inl (.of_library (fun _ => ⟨rfl, rfl⟩) rfl fun file ⟨other, member⟩ => ?_)
    rw [ProgramSpace.owned_markDisposed] at member
    exact Or.inl ⟨other, member⟩
  | spaceForgotten space disposed empty present =>
    exact Or.inl (.of_library (fun _ => ⟨rfl, rfl⟩) rfl fun _ listed => Or.inl listed)

end ReaderTrace
