import Mathlib.Data.List.Nodup
import ReaderTrace.Proofs.Disposal

/-!
No object file is lost and none is destroyed twice.

An object file is listed from its creation until its space lets go of it, and
its destruction is announced at that point and at no other. Listeners may remove
files, add some and dispose of spaces in between; every atomic change leaves an
object file as it is or takes it from listed to announced.
-/

namespace ReaderTrace

/-- How often the destruction of an object file was announced. -/
def World.destructions (world : World) (file : ObjectFileId) : Nat :=
  world.milestones.count (.destroyed file)

theorem World.destructions_note (world : World) (happening : Happening) (file : ObjectFileId) :
    (world.note happening).destructions file =
      world.destructions file + happening.milestone?.toList.count (.destroyed file) := by
  unfold destructions
  rw [milestones_note, List.count_append]

/-! ### Which object files are listed nowhere -/

section Gone

variable {library after : Library} {file : ObjectFileId}

theorem Library.gone_congr (owned : ∀ space, after.owned space = library.owned space)
    (files : after.objectFiles.length = library.objectFiles.length) :
    after.Gone file ↔ library.Gone file := by
  unfold Library.Gone Library.Lists
  simp only [owned, files]

theorem Library.gone_of_roster (same : after.roster = library.roster) :
    after.Gone file ↔ library.Gone file :=
  gone_congr (fun space => owned_of_roster same space) (length_objectFiles_of_roster same)

theorem ProgramSpace.gone_withFile {space : SpaceId} {name : String} {quick : Option QuickId}
    (opened : library.isDisposed space = false) :
    (withFile library space name quick).Gone file ↔ library.Gone file := by
  have ownedEq := fun other => owned_withFile library other name quick opened
  constructor
  · intro ⟨known, unlisted⟩
    have different : file ≠ nextFile library := by
      intro same
      apply unlisted
      exists space
      rw [ownedEq, if_pos rfl, same]
      exact List.mem_append_right _ (List.mem_singleton.mpr rfl)
    have lengthEq : (withFile library space name quick).objectFiles.length =
        library.objectFiles.length + 1 := List.length_append
    constructor
    · have otherIndex : file.index ≠ library.objectFiles.length := fun indexEq =>
        different (by cases file; simp_all [nextFile])
      omega
    · intro ⟨other, member⟩
      apply unlisted
      exists other
      rw [ownedEq]
      split
      · next same =>
        subst same
        exact List.mem_append_left _ member
      · exact member
  · exact (Dwindles.withFile library name quick opened).progress.gone file

theorem ProgramSpace.gone_struck_other {space : SpaceId} {struckFile : ObjectFileId}
    (different : file ≠ struckFile) :
    (struck library space struckFile).Gone file ↔ library.Gone file := by
  constructor
  · intro ⟨known, unlisted⟩
    refine ⟨known, fun ⟨other, member⟩ => unlisted ⟨other, ?_⟩⟩
    rw [owned_struck]
    split
    · next same =>
      subst same
      exact (List.mem_erase_of_ne different).mpr member
    · exact member
  · exact (Dwindles.strike library space struckFile).progress.gone file

end Gone

/-! ### The fate of an object file -/

/-- What one move does to an object file. -/
inductive Fate (world after : World) (file : ObjectFileId) : Prop
  | spared (gone : after.library.Gone file ↔ world.library.Gone file)
      (destructions : after.destructions file = world.destructions file)
  | announced (listed : world.library.Lists file) (gone : after.library.Gone file)
      (destructions : after.destructions file = world.destructions file + 1)

variable {license : Operation → Prop} {world after : World}

theorem Fate.of_roster (roster : after.library.roster = world.library.roster)
    {file : ObjectFileId} (destructions : after.destructions file = world.destructions file) :
    Fate world after file :=
  .spared (Library.gone_of_roster roster) destructions

theorem Relogging.fate (relogging : Relogging license world after) (sound : Sound world.library)
    (file : ObjectFileId) : Fate world after file := by
  have rosterEq : after.library.roster = world.library.roster := by
    rw [← Library.roster_bare, relogging.bare sound, Library.roster_bare]
  apply Fate.of_roster rosterEq
  cases relogging with
  | tableSet other table licensed known accepted =>
    exact World.destructions_note (world.after _) (.reached (.tableSet other table)) file
  | released | installed | uninstalled | debugSet => rfl

theorem Move.fate (move : Move license world after) (sound : Sound world.library)
    (file : ObjectFileId) : Fate world after file := by
  cases move with
  | aside aside =>
    have unmoved := aside.unmoved
    exact .of_roster unmoved.roster (congrArg (List.count _) unmoved.milestones)
  | relogged relogging => exact relogging.fate sound file
  | spaceCreated name =>
    exact .spared (Library.gone_congr (ProgramSpace.owned_create world.library name) rfl) rfl
  | fileAdded space name quick opened =>
    refine .spared ?_ rfl
    change ((ProgramSpace.addObjectFile space name quick).apply world.library).2.Gone file ↔ _
    rw [ProgramSpace.apply_addObjectFile_of_open opened]
    exact ProgramSpace.gone_withFile opened
  | fileStruck space struckFile member =>
    have noted := World.destructions_note (world.after (ProgramSpace.strike space struckFile))
      (.reached (.destroyed struckFile)) file
    have struck : (world.after (ProgramSpace.strike space struckFile)).library =
        ProgramSpace.struck world.library space struckFile := by
      unfold World.after
      rw [ProgramSpace.apply_strike_of_mem member]
    by_cases same : file = struckFile
    · subst same
      refine .announced ⟨space, member⟩ ?_ (noted.trans ?_)
      · change (world.after (ProgramSpace.strike space file)).library.Gone file
        rw [struck]
        exact sound.registered.gone_struck member
      · simp [Happening.milestone?, World.destructions, World.milestones, World.after]
    · refine .spared ?_ (noted.trans ?_)
      · change (world.after (ProgramSpace.strike space struckFile)).library.Gone file ↔ _
        rw [struck]
        exact ProgramSpace.gone_struck_other same
      · simp [Happening.milestone?, World.destructions, World.milestones, World.after,
          Ne.symm same]
  | fileDetached other gone =>
    exact .spared (Library.gone_congr (fun _ => rfl) (List.length_modify _ _ _)) rfl
  | spaceClosed space opened =>
    exact .spared (Library.gone_congr (ProgramSpace.owned_markDisposed world.library space) rfl)
      rfl
  | spaceForgotten space disposed empty present => exact .spared Iff.rfl rfl

/-! ### Every run -/

/-- The destruction of an object file was announced once if it exists and is
listed nowhere, and never otherwise. -/
structure Conserved (world : World) (file : ObjectFileId) : Prop where
  gone : world.library.Gone file → world.destructions file = 1
  kept : ¬world.library.Gone file → world.destructions file = 0

namespace Conserved

variable {file : ObjectFileId}

theorem after_fate (conserved : Conserved world file) (fate : Fate world after file) :
    Conserved after file := by
  cases fate with
  | spared gone destructions =>
    constructor
    · intro goneAfter
      rw [destructions]
      exact conserved.gone (gone.mp goneAfter)
    · intro keptAfter
      rw [destructions]
      exact conserved.kept fun goneBefore => keptAfter (gone.mpr goneBefore)
  | announced listed gone destructions =>
    have before := conserved.kept fun goneBefore => goneBefore.2 listed
    exact ⟨fun _ => by rw [destructions, before], fun still => absurd gone still⟩

theorem destructions_le_one (conserved : Conserved world file) :
    world.destructions file ≤ 1 := by
  by_cases gone : world.library.Gone file
  · exact Nat.le_of_eq (conserved.gone gone)
  · rw [conserved.kept gone]
    exact Nat.zero_le 1

end Conserved

theorem Begun.conserved (begun : Begun license world) (file : ObjectFileId) :
    Conserved world file := by
  induction begun with
  | refl => exact ⟨fun gone => absurd gone.1 (Nat.not_lt_zero _), fun _ => rfl⟩
  | tail earlier move ih => exact ih.after_fate (move.fate (Begun.sound earlier) file)

/-- Where a listed object file is counted. -/
theorem Registered.count_owned {library : Library} (registered : Registered library)
    {space : SpaceId} {file : ObjectFileId} (member : file ∈ library.owned space)
    (other : SpaceId) : (library.owned other).count file = if other = space then 1 else 0 := by
  split
  · next same =>
    subst same
    exact List.count_eq_one_of_mem (registered.nodup other) member
  · next different =>
    apply List.count_eq_zero_of_not_mem
    intro also
    exact different (registered.once other space file also member)

/-! ### Operations that are refused -/

/-- The operation ends at once with `cause`, and nothing is changed. -/
def Moment.Refuses (moment : Moment) (operation : Operation) (cause : Assertion) : Prop :=
  moment.start operation =
    { moment with
      history := moment.history ++
        [.started operation, .finished operation (.error (.fault (.assertion cause)))] }

/-- An operation whose first edit fails without a change is refused. -/
theorem Moment.refuses_of_edit {moment : Moment} {operation : Operation} {α : Type}
    {change : Edit α} {next : α → Routine Result} {cause : Assertion}
    (begins : operation.routine = (Routine.edit change).bind next)
    (refused : change.apply moment.library =
      (.error (.fault (.assertion cause)), moment.library)) :
    moment.Refuses operation cause := by
  unfold Refuses
  rw [start_of_raised_edit begins (congrArg Prod.fst refused), refused]

theorem Moment.refuses_removeObjectFile {moment : Moment} {space : SpaceId}
    {file : ObjectFileId} (unlisted : file ∉ moment.library.owned space) :
    moment.Refuses (.removeObjectFile space file)
      (.notOwned (moment.library.debugName file) (moment.library.spaceName space)) := by
  exact refuses_of_edit (Routine.bind_assoc _ _ _) (ProgramSpace.apply_strike_of_notMem unlisted)

/-! ### The statement about runs -/

/-- At every moment of every run each object file that was created is listed
once, in one space, and its destruction was not announced, or it is listed
nowhere, now and later, and its destruction was announced once. Removing a file
from a space that does not list it is refused. -/
theorem Reachable.conserves_files {moment : Moment} (reachable : Reachable .free moment) :
    (∀ file : ObjectFileId, file.index < moment.library.objectFiles.length →
      (∃ space, (∀ other, (moment.library.owned other).count file =
          if other = space then 1 else 0) ∧
        moment.destructions file = 0) ∨
      ((∀ space, file ∉ moment.library.owned space) ∧ moment.destructions file = 1 ∧
        ∀ later, Meanwhile .free [] moment later →
          (∀ space, file ∉ later.library.owned space) ∧ later.destructions file = 1)) ∧
    ∀ space file, file ∉ moment.library.owned space →
      moment.Refuses (.removeObjectFile space file)
        (.notOwned (moment.library.debugName file) (moment.library.spaceName space)) := by
  have begun := reachable.begun_free
  constructor
  · intro file known
    have conserved := Begun.conserved begun file
    by_cases listed : moment.library.Lists file
    · obtain ⟨space, member⟩ := listed
      refine Or.inl ⟨space, begun.sound.registered.count_owned member, ?_⟩
      exact conserved.kept fun gone => gone.2 ⟨space, member⟩
    · have gone : moment.library.Gone file := ⟨known, listed⟩
      refine Or.inr ⟨fun space member => listed ⟨space, member⟩, conserved.gone gone, ?_⟩
      intro later meanwhile
      have goneLater := (meanwhile.rewritten reachable).dwindles.progress.gone file gone
      have begunLater := (meanwhile.reachable reachable).begun_free
      exact ⟨fun space member => goneLater.2 ⟨space, member⟩,
        (Begun.conserved begunLater file).gone goneLater⟩
  · intro space file unlisted
    exact Moment.refuses_removeObjectFile unlisted

/-- While the listener is told of the first of two removals of a disposal, the
file that was removed is announced and the other one listed. -/
theorem conserves_files_furnished :
    (∃ space, ((Moment.furnished.start (.dispose { index := 0 })).library.owned space).count
        { index := 0 } = 1 ∧
      (Moment.furnished.start (.dispose { index := 0 })).destructions { index := 0 } = 0) ∧
    (Moment.furnished.start (.dispose { index := 0 })).destructions { index := 1 } = 1 ∧
    ((Moment.furnished.start (.dispose { index := 0 })).start
      (.removeObjectFile { index := 0 } { index := 1 })).library =
        (Moment.furnished.start (.dispose { index := 0 })).library := by
  have disposing : Reachable .free (Moment.furnished.start (.dispose { index := 0 })) :=
    .start (.dispose { index := 0 }) reachable_furnished trivial fun _ _ => trivial
  obtain ⟨fates, refused⟩ := disposing.conserves_files
  have listed : ({ index := 0 } : ObjectFileId) ∈
      (Moment.furnished.start (.dispose { index := 0 })).library.owned { index := 0 } := by decide
  have unlisted : ({ index := 1 } : ObjectFileId) ∉
      (Moment.furnished.start (.dispose { index := 0 })).library.owned { index := 0 } := by decide
  refine ⟨?_, ?_, ?_⟩
  · rcases fates { index := 0 } (by decide) with ⟨space, counted, none⟩ | ⟨nowhere, _⟩
    · exact ⟨space, (counted space).trans (if_pos rfl), none⟩
    · exact absurd listed (nowhere _)
  · rcases fates { index := 1 } (by decide) with ⟨space, _, none⟩ | ⟨_, once, _⟩
    · cases none
    · exact once
  · rw [refused _ _ unlisted]

end ReaderTrace
