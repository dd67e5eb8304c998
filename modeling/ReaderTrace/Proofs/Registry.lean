import ReaderTrace.ProgramSpace
import ReaderTrace.Proofs.State

/-!
The registry of program spaces and the object files listed in it.

An object file is listed in one space, once, and can be given a table as long
as it is listed. A space stays registered until it has been disposed and lists
nothing. Only the roster matters for this: the spaces, the registry, and which
object files are attached.
-/

namespace ReaderTrace

namespace Library

/-- The part of the library that says what is live. -/
def roster (library : Library) : List ProgramSpace × List SpaceId × List Bool :=
  (library.spaces, library.registry, library.objectFiles.map ObjectFile.attached)

/-- Whether some program space lists the object file. -/
def Lists (library : Library) (file : ObjectFileId) : Prop :=
  ∃ space, file ∈ library.owned space

/-- An object file that exists and that no program space lists. -/
def Gone (library : Library) (file : ObjectFileId) : Prop :=
  file.index < library.objectFiles.length ∧ ¬library.Lists file

variable {library after : Library}

theorem roster_bare : library.bare.roster = library.roster := by
  simp [roster, bare, Function.comp_def, ObjectFile.bare]

/-! ### Reading the roster -/

section SameRoster

variable (same : after.roster = library.roster)
include same

theorem owned_of_roster (space : SpaceId) : after.owned space = library.owned space := by
  have spacesEq : after.spaces = library.spaces := congrArg Prod.fst same
  unfold owned space?
  rw [spacesEq]

theorem isDisposed_of_roster (space : SpaceId) :
    after.isDisposed space = library.isDisposed space := by
  have spacesEq : after.spaces = library.spaces := congrArg Prod.fst same
  unfold isDisposed space?
  rw [spacesEq]

theorem registry_of_roster : after.registry = library.registry :=
  congrArg (fun roster => roster.2.1) same

theorem isAttached_of_roster (file : ObjectFileId) :
    after.isAttached file = library.isAttached file := by
  have attachedEq :
      after.objectFiles.map ObjectFile.attached = library.objectFiles.map ObjectFile.attached :=
    congrArg (fun roster => roster.2.2) same
  have readEq := congrArg (fun flags : List Bool => flags[file.index]?) attachedEq
  simp only [List.getElem?_map] at readEq
  unfold isAttached objectFile?
  rw [readEq]

theorem length_objectFiles_of_roster :
    after.objectFiles.length = library.objectFiles.length := by
  have lengthEq := congrArg (fun roster => roster.2.2.length) same
  simpa [roster] using lengthEq

end SameRoster

/-! ### Changes of one program space -/

theorem map_spaces_of_kept {β : Type} {view : ProgramSpace → β} (library : Library)
    (space : SpaceId) {change : ProgramSpace → ProgramSpace}
    (kept : ∀ record, view (change record) = view record) :
    (library.modifySpace space change).spaces.map view = library.spaces.map view := by
  change (library.spaces.modify space.index change).map view = _
  apply List.ext_getElem?
  intro index
  rw [List.getElem?_map, List.getElem?_map, List.getElem?_modify]
  cases library.spaces[index]? with
  | none => rfl
  | some record =>
    by_cases same : space.index = index
    · simp [same, kept record]
    · simp [same]

theorem owned_modifySpace (library : Library) (space other : SpaceId)
    (change : ProgramSpace → ProgramSpace) :
    (library.modifySpace space change).owned other =
      if other = space then
        ((library.space? space).map fun record => (change record).objectFiles).getD []
      else library.owned other := by
  unfold owned space? modifySpace
  by_cases same : other = space
  · subst other
    rw [if_pos rfl, List.getElem?_modify_eq]
    cases library.spaces[space.index]? <;> rfl
  · rw [if_neg same, List.getElem?_modify_ne]
    intro indexEq
    exact same (by cases other; cases space; simp_all)

theorem isDisposed_modifySpace (library : Library) (space other : SpaceId)
    (change : ProgramSpace → ProgramSpace) :
    (library.modifySpace space change).isDisposed other =
      if other = space then
        ((library.space? space).map fun record => (change record).disposed).getD true
      else library.isDisposed other := by
  unfold isDisposed space? modifySpace
  by_cases same : other = space
  · subst other
    rw [if_pos rfl, List.getElem?_modify_eq]
    cases library.spaces[space.index]? <;> rfl
  · rw [if_neg same, List.getElem?_modify_ne]
    intro indexEq
    exact same (by cases other; cases space; simp_all)

theorem isDisposed_modifySpace_of_kept (library : Library) (space other : SpaceId)
    {change : ProgramSpace → ProgramSpace}
    (kept : ∀ record, (change record).disposed = record.disposed) :
    (library.modifySpace space change).isDisposed other = library.isDisposed other := by
  rw [isDisposed_modifySpace]
  split
  · next same =>
    subst other
    unfold isDisposed
    cases library.space? space with
    | none => rfl
    | some record => exact kept record
  · rfl

end Library

/-! ### What the operations on spaces do to the roster -/

namespace ProgramSpace

open Edit

variable (library : Library)

theorem owned_create (name : Option String) (space : SpaceId) :
    ((create name).apply library).2.owned space = library.owned space := by
  change (((library.spaces ++ [_])[space.index]?).map ProgramSpace.objectFiles).getD [] = _
  unfold Library.owned Library.space?
  rw [List.getElem?_append]
  split
  · rfl
  · next beyond =>
    have missing : library.spaces[space.index]? = none := List.getElem?_eq_none (by omega)
    rw [missing]
    cases space.index - library.spaces.length <;> rfl

theorem isDisposed_create (name : Option String) {space : SpaceId}
    (opened : ((create name).apply library).2.isDisposed space = false) :
    library.isDisposed space = false ∨ space = { index := library.spaces.length } := by
  change (((library.spaces ++ [_])[space.index]?).map ProgramSpace.disposed).getD true = false
    at opened
  rw [List.getElem?_append] at opened
  split at opened
  · exact Or.inl opened
  · next beyond =>
    right
    cases remainder : space.index - library.spaces.length with
    | zero =>
      cases space
      simp only [SpaceId.mk.injEq]
      simp only at beyond remainder
      omega
    | succ further =>
      rw [remainder] at opened
      simp at opened

/-- The library after a new object file has been listed in `space`. -/
def withFile (space : SpaceId) (name : String) (quick : Option QuickId) : Library :=
  Library.modifySpace
    { library with
      objectFiles := library.objectFiles ++
        [{ name := name, quick := quick, table := none, partialSymbolsRead := false,
           attached := true }] }
    space fun record =>
      { record with objectFiles := record.objectFiles ++ [{ index := library.objectFiles.length }] }

def nextFile : ObjectFileId :=
  { index := library.objectFiles.length }

theorem owned_withFile {space : SpaceId} (other : SpaceId) (name : String)
    (quick : Option QuickId) (opened : library.isDisposed space = false) :
    (withFile library space name quick).owned other =
      if other = space then library.owned space ++ [nextFile library]
      else library.owned other := by
  unfold withFile
  rw [Library.owned_modifySpace]
  split
  · unfold Library.isDisposed Library.space? at opened
    unfold Library.owned Library.space?
    cases found : library.spaces[space.index]? with
    | none => simp [found] at opened
    | some record => rfl
  · rfl

theorem mem_owned_withFile {space other : SpaceId} {name : String} {quick : Option QuickId}
    {file : ObjectFileId} (opened : library.isDisposed space = false)
    (member : file ∈ (withFile library space name quick).owned other) :
    file ∈ library.owned other ∨ (file = nextFile library ∧ other = space) := by
  rw [owned_withFile library other name quick opened] at member
  split at member
  · next same =>
    subst same
    rcases List.mem_append.mp member with old | new
    · exact Or.inl old
    · exact Or.inr ⟨List.mem_singleton.mp new, rfl⟩
  · exact Or.inl member

theorem isDisposed_withFile (space other : SpaceId) (name : String) (quick : Option QuickId) :
    (withFile library space name quick).isDisposed other = library.isDisposed other := by
  unfold withFile
  exact Library.isDisposed_modifySpace_of_kept _ space other fun _ => rfl

theorem objectFile?_withFile_of_lt (space : SpaceId) (name : String) (quick : Option QuickId)
    {file : ObjectFileId} (known : file.index < library.objectFiles.length) :
    (withFile library space name quick).objectFile? file = library.objectFile? file :=
  List.getElem?_append_left known

theorem objectFile?_withFile_self (space : SpaceId) (name : String) (quick : Option QuickId) :
    (withFile library space name quick).objectFile? (nextFile library) =
      some { name := name, quick := quick, table := none, partialSymbolsRead := false,
             attached := true } :=
  List.getElem?_concat_length

theorem tableOf?_withFile (space : SpaceId) (name : String) (quick : Option QuickId)
    (file : ObjectFileId) :
    (withFile library space name quick).tableOf? file = library.tableOf? file := by
  unfold Library.tableOf?
  by_cases known : file.index < library.objectFiles.length
  · rw [objectFile?_withFile_of_lt library space name quick known]
  · have missing : library.objectFile? file = none :=
      List.getElem?_eq_none (Nat.le_of_not_lt known)
    rw [missing]
    unfold Library.objectFile? withFile Library.modifySpace
    rw [List.getElem?_append_right (Nat.le_of_not_lt known)]
    cases file.index - library.objectFiles.length <;> rfl

/-- An object file that is not there counts as unread, and so does a new one. -/
theorem partialSymbolsRead_withFile (space : SpaceId) (name : String) (quick : Option QuickId)
    (file : ObjectFileId) :
    (withFile library space name quick).partialSymbolsRead file =
      library.partialSymbolsRead file := by
  unfold Library.partialSymbolsRead
  by_cases known : file.index < library.objectFiles.length
  · rw [objectFile?_withFile_of_lt library space name quick known]
  · have missing : library.objectFile? file = none :=
      List.getElem?_eq_none (Nat.le_of_not_lt known)
    rw [missing]
    unfold Library.objectFile? withFile Library.modifySpace
    rw [List.getElem?_append_right (Nat.le_of_not_lt known)]
    cases file.index - library.objectFiles.length <;> rfl

theorem isAttached_withFile_self (space : SpaceId) (name : String) (quick : Option QuickId) :
    (withFile library space name quick).isAttached (nextFile library) = true := by
  unfold Library.isAttached
  rw [objectFile?_withFile_self]
  rfl

theorem isAttached_withFile_of_lt (space : SpaceId) (name : String) (quick : Option QuickId)
    {file : ObjectFileId} (known : file.index < library.objectFiles.length) :
    (withFile library space name quick).isAttached file = library.isAttached file := by
  unfold Library.isAttached
  rw [objectFile?_withFile_of_lt library space name quick known]

theorem isAttached_withFile_of_attached (space : SpaceId) (name : String)
    (quick : Option QuickId) {file : ObjectFileId} (attached : library.isAttached file = true) :
    (withFile library space name quick).isAttached file = true := by
  rw [isAttached_withFile_of_lt library space name quick (library.lt_of_isAttached attached)]
  exact attached

theorem apply_addObjectFile (space : SpaceId) (name : String) (quick : Option QuickId) :
    (addObjectFile space name quick).apply library =
      if library.isDisposed space then
        (.error (.fault (.assertion (.spaceDisposed (library.spaceName space)))), library)
      else
        (.ok (nextFile library), withFile library space name quick) := by
  unfold addObjectFile
  simp only [apply_bind, apply_get, apply_require]
  cases library.isDisposed space <;> rfl

theorem apply_addObjectFile_of_open {library : Library} {space : SpaceId}
    (opened : library.isDisposed space = false) (name : String) (quick : Option QuickId) :
    (addObjectFile space name quick).apply library =
      (.ok (nextFile library), withFile library space name quick) := by
  rw [apply_addObjectFile, if_neg (ne_true_of_eq_false opened)]

theorem apply_addObjectFile_of_disposed {library : Library} {space : SpaceId}
    (disposed : library.isDisposed space = true) (name : String) (quick : Option QuickId) :
    (addObjectFile space name quick).apply library =
      (.error (.fault (.assertion (.spaceDisposed (library.spaceName space)))), library) := by
  rw [apply_addObjectFile, if_pos disposed]

def struck (space : SpaceId) (file : ObjectFileId) : Library :=
  library.modifySpace space fun record =>
    { record with objectFiles := record.objectFiles.erase file }

theorem owned_struck (space other : SpaceId) (file : ObjectFileId) :
    (struck library space file).owned other =
      if other = space then (library.owned space).erase file else library.owned other := by
  unfold struck
  rw [Library.owned_modifySpace]
  unfold Library.owned
  cases library.space? space <;> rfl

/-- The last of the list is struck off its end. -/
theorem owned_struck_last {library : Library} {space : SpaceId} {file : ObjectFileId}
    (last : (library.owned space).getLast? = some file) (nodup : (library.owned space).Nodup) :
    library.owned space = (struck library space file).owned space ++ [file] := by
  obtain ⟨earlier, ownedEq⟩ := List.getLast?_eq_some_iff.mp last
  have fresh : file ∉ earlier := by
    rw [ownedEq, List.nodup_append] at nodup
    intro member
    exact nodup.2.2 file member file (List.mem_singleton.mpr rfl) rfl
  rw [owned_struck, if_pos rfl, ownedEq, List.erase_append_right _ fresh, List.erase_cons_head,
    List.append_nil]

theorem isDisposed_struck (space other : SpaceId) (file : ObjectFileId) :
    (struck library space file).isDisposed other = library.isDisposed other :=
  library.isDisposed_modifySpace_of_kept _ _ fun _ => rfl

theorem mem_owned_of_mem_owned_struck {space other : SpaceId} {file listed : ObjectFileId}
    (member : listed ∈ (struck library space file).owned other) :
    listed ∈ library.owned other := by
  rw [owned_struck] at member
  split at member
  · next same =>
    subst same
    exact List.mem_of_mem_erase member
  · exact member

theorem owned_markDisposed (space other : SpaceId) :
    ((markDisposed space).apply library).2.owned other = library.owned other := by
  refine (library.owned_modifySpace space other _).trans ?_
  split
  · next same =>
    subst same
    unfold Library.owned
    cases library.space? other <;> rfl
  · rfl

theorem apply_strike (space : SpaceId) (file : ObjectFileId) :
    (strike space file).apply library =
      if (library.owned space).contains file then (.ok (), struck library space file)
      else
        (.error (.fault (.assertion
          (.notOwned (library.debugName file) (library.spaceName space)))), library) := by
  unfold strike
  simp only [apply_bind, apply_get, apply_require]
  cases (library.owned space).contains file <;> rfl

theorem apply_strike_of_mem {library : Library} {space : SpaceId} {file : ObjectFileId}
    (member : file ∈ library.owned space) :
    (strike space file).apply library = (.ok (), struck library space file) := by
  rw [apply_strike, if_pos (List.contains_iff_mem.mpr member)]

theorem apply_strike_of_notMem {library : Library} {space : SpaceId} {file : ObjectFileId}
    (unlisted : file ∉ library.owned space) :
    (strike space file).apply library =
      (.error (.fault (.assertion
        (.notOwned (library.debugName file) (library.spaceName space)))), library) := by
  rw [apply_strike, if_neg fun listed => unlisted (List.contains_iff_mem.mp listed)]

end ProgramSpace

/-! ### The invariant -/

/-- What holds of the registry at every moment. -/
structure Registered (library : Library) : Prop where
  attached : ∀ space file, file ∈ library.owned space → library.isAttached file = true
  nodup : ∀ space, (library.owned space).Nodup
  once : ∀ space other file, file ∈ library.owned space → file ∈ library.owned other →
    space = other
  opened : ∀ space, library.isDisposed space = false → space ∈ library.registry
  owner : ∀ space file, file ∈ library.owned space → space ∈ library.registry

namespace Registered

variable {library after : Library}

theorem initial : Registered .initial where
  attached := by intro space file member; cases member
  nodup := by intro space; exact List.nodup_nil
  once := by intro space other file member; cases member
  opened := by intro space opened; cases opened
  owner := by intro space file member; cases member

theorem isAttached_of_lists (registered : Registered library) {file : ObjectFileId}
    (listed : library.Lists file) : library.isAttached file = true := by
  obtain ⟨space, member⟩ := listed
  exact registered.attached space file member

theorem mem_live_iff (registered : Registered library) {file : ObjectFileId} :
    file ∈ library.live ↔ library.Lists file := by
  unfold Library.live Library.Lists
  rw [List.mem_flatMap]
  constructor
  · intro ⟨space, _, member⟩
    exact ⟨space, member⟩
  · intro ⟨space, member⟩
    exact ⟨space, registered.owner space file member, member⟩

theorem congr (registered : Registered library) (same : after.roster = library.roster) :
    Registered after := by
  have ownedEq := fun space => Library.owned_of_roster same space
  have attachedEq := fun file => Library.isAttached_of_roster same file
  have disposedEq := fun space => Library.isDisposed_of_roster same space
  have registryEq := Library.registry_of_roster same
  refine ⟨?_, ?_, ?_, ?_, ?_⟩
  · intro space file member
    rw [ownedEq] at member
    rw [attachedEq]
    exact registered.attached space file member
  · intro space
    rw [ownedEq]
    exact registered.nodup space
  · intro space other file first second
    rw [ownedEq] at first second
    exact registered.once space other file first second
  · intro space opened
    rw [disposedEq] at opened
    rw [registryEq]
    exact registered.opened space opened
  · intro space file member
    rw [ownedEq] at member
    rw [registryEq]
    exact registered.owner space file member

theorem create (registered : Registered library) (name : Option String) :
    Registered ((ProgramSpace.create name).apply library).2 := by
  have ownedEq := ProgramSpace.owned_create library name
  have grows : ∀ space, space ∈ library.registry →
      space ∈ ((ProgramSpace.create name).apply library).2.registry := by
    intro space member
    exact List.mem_append_left _ member
  refine ⟨?_, ?_, ?_, ?_, ?_⟩
  · intro space file member
    rw [ownedEq] at member
    exact registered.attached space file member
  · intro space
    rw [ownedEq]
    exact registered.nodup space
  · intro space other file first second
    rw [ownedEq] at first second
    exact registered.once space other file first second
  · intro space opened
    rcases ProgramSpace.isDisposed_create library name opened with before | new
    · exact grows space (registered.opened space before)
    · subst new
      exact List.mem_append_right _ (List.mem_singleton.mpr rfl)
  · intro space file member
    rw [ownedEq] at member
    exact grows space (registered.owner space file member)

theorem withFile (registered : Registered library) {space : SpaceId} (name : String)
    (quick : Option QuickId) (opened : library.isDisposed space = false) :
    Registered (ProgramSpace.withFile library space name quick) := by
  have ownedEq := fun other => ProgramSpace.owned_withFile library other name quick opened
  have fresh : ∀ other, ProgramSpace.nextFile library ∉ library.owned other := by
    intro other member
    have bound := library.lt_of_isAttached (registered.attached other _ member)
    exact Nat.lt_irrefl _ bound
  have listed := fun other file =>
    @ProgramSpace.mem_owned_withFile library space other name quick file opened
  refine ⟨?_, ?_, ?_, ?_, ?_⟩
  · intro other file member
    rcases listed other file member with old | ⟨new, _⟩
    · exact ProgramSpace.isAttached_withFile_of_attached library space name quick
        (registered.attached other file old)
    · subst new
      exact ProgramSpace.isAttached_withFile_self library space name quick
  · intro other
    rw [ownedEq]
    split
    · refine List.nodup_append.mpr ⟨registered.nodup space, by simp, ?_⟩
      intro file old new isNew same
      rw [List.mem_singleton] at isNew
      subst isNew
      subst same
      exact fresh space old
    · exact registered.nodup other
  · intro first second file inFirst inSecond
    rcases listed first file inFirst with oldFirst | ⟨newFirst, firstEq⟩
    · rcases listed second file inSecond with oldSecond | ⟨newSecond, _⟩
      · exact registered.once first second file oldFirst oldSecond
      · subst newSecond
        exact absurd oldFirst (fresh first)
    · rcases listed second file inSecond with oldSecond | ⟨_, secondEq⟩
      · subst newFirst
        exact absurd oldSecond (fresh second)
      · rw [firstEq, secondEq]
  · intro other openedAfter
    rw [ProgramSpace.isDisposed_withFile] at openedAfter
    exact registered.opened other openedAfter
  · intro other file member
    rcases listed other file member with old | ⟨_, same⟩
    · exact registered.owner other file old
    · subst same
      exact registered.opened other opened

theorem strike (registered : Registered library) (space : SpaceId) (file : ObjectFileId) :
    Registered (ProgramSpace.struck library space file) := by
  have old := fun other listed =>
    @ProgramSpace.mem_owned_of_mem_owned_struck library space other file listed
  refine ⟨?_, ?_, ?_, ?_, ?_⟩
  · intro other listed member
    exact registered.attached other listed (old other listed member)
  · intro other
    rw [ProgramSpace.owned_struck]
    split
    · exact (registered.nodup space).erase file
    · exact registered.nodup other
  · intro first second listed inFirst inSecond
    exact registered.once first second listed (old first listed inFirst)
      (old second listed inSecond)
  · intro other opened
    rw [ProgramSpace.isDisposed_struck] at opened
    exact registered.opened other opened
  · intro other listed member
    exact registered.owner other listed (old other listed member)

theorem gone_struck (registered : Registered library) {space : SpaceId} {file : ObjectFileId}
    (member : file ∈ library.owned space) :
    (ProgramSpace.struck library space file).Gone file := by
  refine ⟨library.lt_of_isAttached (registered.attached space file member), ?_⟩
  intro ⟨other, listed⟩
  have listedBefore := ProgramSpace.mem_owned_of_mem_owned_struck library listed
  have same := registered.once other space file listedBefore member
  rw [ProgramSpace.owned_struck, if_pos same] at listed
  exact (registered.nodup space).not_mem_erase listed

theorem markDisposed (registered : Registered library) (space : SpaceId) :
    Registered ((ProgramSpace.markDisposed space).apply library).2 := by
  have ownedEq := ProgramSpace.owned_markDisposed library space
  refine ⟨?_, ?_, ?_, ?_, ?_⟩
  · intro other file member
    rw [ownedEq] at member
    exact registered.attached other file member
  · intro other
    rw [ownedEq]
    exact registered.nodup other
  · intro first second file inFirst inSecond
    rw [ownedEq] at inFirst inSecond
    exact registered.once first second file inFirst inSecond
  · intro other opened
    refine registered.opened other ?_
    have disposedEq := library.isDisposed_modifySpace space other
      fun record => { record with disposed := true }
    change (library.modifySpace space _).isDisposed other = false at opened
    rw [disposedEq] at opened
    split at opened
    · cases found : library.space? space <;> simp [found] at opened
    · exact opened
  · intro other file member
    rw [ownedEq] at member
    exact registered.owner other file member

theorem unregister (registered : Registered library) {space : SpaceId}
    (disposed : library.isDisposed space = true) (empty : library.owned space = [])
    (present : space ∈ library.registry) :
    Registered ((ProgramSpace.unregister space).apply library).2 := by
  have registryEq :
      ((ProgramSpace.unregister space).apply library).2.registry =
        library.registry.erase space := by
    change (if library.registry.contains space then library.registry.erase space
      else library.registry.dropLast) = _
    rw [if_pos (List.contains_iff_mem.mpr present)]
  have others : ∀ other, other ≠ space → other ∈ library.registry →
      other ∈ ((ProgramSpace.unregister space).apply library).2.registry := by
    intro other different member
    rw [registryEq]
    exact (List.mem_erase_of_ne different).mpr member
  refine ⟨registered.attached, registered.nodup, registered.once, ?_, ?_⟩
  · intro other opened
    change library.isDisposed other = false at opened
    refine others other ?_ (registered.opened other opened)
    intro same
    rw [same, disposed] at opened
    cases opened
  · intro other file member
    change file ∈ library.owned other at member
    refine others other ?_ (registered.owner other file member)
    intro same
    rw [same, empty] at member
    cases member

theorem detach (registered : Registered library) {file : ObjectFileId}
    (gone : library.Gone file) : Registered ((Edit.detach file).apply library).2 := by
  refine ⟨?_, registered.nodup, registered.once, registered.opened, registered.owner⟩
  intro space listed member
  change listed ∈ library.owned space at member
  have different : listed ≠ file := by
    intro same
    subst same
    exact gone.2 ⟨space, member⟩
  change (library.modifyObjectFile file _).isAttached listed = true
  unfold Library.isAttached
  rw [Library.objectFile?_modifyObjectFile, if_neg different]
  exact registered.attached space listed member

end Registered

end ReaderTrace
