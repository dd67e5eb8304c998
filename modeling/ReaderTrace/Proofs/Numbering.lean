import ReaderTrace.Proofs.Conservation

/-!
The order of program spaces and of object files.

A program space takes its number when it is created, and the registry keeps the
spaces in that order, whichever of them are taken out. Object files are listed
in the order of their creation. Every single edit keeps this up, from whatever
state a client has left, and none of them adds to a space that was disposed.
-/

namespace ReaderTrace

/-- The number of a program space. -/
def Library.numberOf (library : Library) (space : SpaceId) : Nat :=
  ((library.space? space).map ProgramSpace.number).getD 0

/-! ### The invariant -/

/-- Numbers count the program spaces, and what is listed is listed by age. -/
structure Numbered (library : Library) : Prop where
  numbers : library.spaces.map ProgramSpace.number = List.range' 1 library.spaces.length
  next : library.nextNumber = library.spaces.length + 1
  known : ∀ space ∈ library.registry, space.index < library.spaces.length
  ordered : library.registry.Pairwise fun first second => first.index < second.index
  made : ∀ space, ∀ file ∈ library.owned space, file.index < library.objectFiles.length
  aged : ∀ space, (library.owned space).Pairwise fun first second => first.index < second.index

namespace Numbered

variable {library after : Library}

theorem initial : Numbered .initial where
  numbers := rfl
  next := rfl
  known := by intro space member; cases member
  ordered := List.Pairwise.nil
  made := by intro space file member; cases member
  aged := fun _ => List.Pairwise.nil

theorem congr (numbered : Numbered library) (spaces : after.spaces = library.spaces)
    (registry : after.registry = library.registry)
    (next : after.nextNumber = library.nextNumber)
    (files : after.objectFiles.length = library.objectFiles.length) : Numbered after := by
  have ownedEq : ∀ space, after.owned space = library.owned space := by
    intro space
    unfold Library.owned Library.space?
    rw [spaces]
  constructor
  · rw [spaces]
    exact numbered.numbers
  · rw [next, spaces]
    exact numbered.next
  · rw [registry, spaces]
    exact numbered.known
  · rw [registry]
    exact numbered.ordered
  · intro space
    rw [ownedEq, files]
    exact numbered.made space
  · intro space
    rw [ownedEq]
    exact numbered.aged space

/-- A change of one space that keeps its number and leaves listed files by
age. -/
theorem modifySpace (numbered : Numbered library) (space : SpaceId)
    {change : ProgramSpace → ProgramSpace}
    (kept : ∀ record, (change record).number = record.number)
    (made : ∀ other, ∀ file ∈ (library.modifySpace space change).owned other,
      file.index < library.objectFiles.length)
    (aged : ∀ other, ((library.modifySpace space change).owned other).Pairwise
      fun first second => first.index < second.index) :
    Numbered (library.modifySpace space change) := by
  have lengthEq : (library.modifySpace space change).spaces.length = library.spaces.length :=
    List.length_modify _ _ _
  constructor
  · rw [library.map_spaces_of_kept space kept, lengthEq]
    exact numbered.numbers
  · rw [lengthEq]
    exact numbered.next
  · rw [lengthEq]
    exact numbered.known
  · exact numbered.ordered
  · exact made
  · exact aged

theorem withFile (numbered : Numbered library) {space : SpaceId} (name : String)
    (quick : Option QuickId) (opened : library.isDisposed space = false) :
    Numbered (ProgramSpace.withFile library space name quick) := by
  have longer := Nat.lt_succ_self library.objectFiles.length
  have listed : Numbered { library with
      objectFiles := library.objectFiles ++
        [{ name := name, quick := quick, table := none, partialSymbolsRead := false,
           attached := true }] } :=
    ⟨numbered.numbers, numbered.next, numbered.known, numbered.ordered,
      fun other file member => by
        rw [List.length_append]
        exact Nat.lt_succ_of_lt (numbered.made other file member),
      numbered.aged⟩
  apply listed.modifySpace space
  · exact fun _ => rfl
  · intro other file member
    rw [List.length_append]
    rcases ProgramSpace.mem_owned_withFile library opened member with old | ⟨rfl, _⟩
    · exact Nat.lt_succ_of_lt (numbered.made other file old)
    · exact longer
  · intro other
    have ownedEq := ProgramSpace.owned_withFile library other name quick opened
    change ((ProgramSpace.withFile library space name quick).owned other).Pairwise _
    rw [ownedEq]
    split
    · apply List.pairwise_append.mpr
      refine ⟨numbered.aged space, List.pairwise_singleton _ _, ?_⟩
      intro earlier member new isNew
      rw [List.mem_singleton.mp isNew]
      exact numbered.made space earlier member
    · exact numbered.aged other

theorem strike (numbered : Numbered library) (space : SpaceId) (file : ObjectFileId) :
    Numbered (ProgramSpace.struck library space file) := by
  apply numbered.modifySpace space
  · exact fun _ => rfl
  · intro other listed member
    exact numbered.made other listed (ProgramSpace.mem_owned_of_mem_owned_struck library member)
  · intro other
    change ((ProgramSpace.struck library space file).owned other).Pairwise _
    rw [ProgramSpace.owned_struck]
    split
    · exact (numbered.aged space).sublist List.erase_sublist
    · exact numbered.aged other

theorem create (numbered : Numbered library) (name : Option String) :
    Numbered ((ProgramSpace.create name).apply library).2 := by
  have ownedEq := ProgramSpace.owned_create library name
  have lengthEq : ((ProgramSpace.create name).apply library).2.spaces.length =
      library.spaces.length + 1 := List.length_append
  have registryEq : ((ProgramSpace.create name).apply library).2.registry =
      library.registry ++ [{ index := library.spaces.length }] := rfl
  constructor
  · have numbersEq : ((ProgramSpace.create name).apply library).2.spaces.map ProgramSpace.number =
        library.spaces.map ProgramSpace.number ++ [library.nextNumber] := List.map_append
    rw [numbersEq, numbered.numbers, lengthEq, numbered.next, List.range'_1_concat, Nat.add_comm]
  · rw [lengthEq, ← numbered.next]
    rfl
  · intro space member
    rw [lengthEq]
    rw [registryEq] at member
    rcases List.mem_append.mp member with old | new
    · exact Nat.lt_succ_of_lt (numbered.known space old)
    · rw [List.mem_singleton.mp new]
      exact Nat.lt_succ_self _
  · rw [registryEq]
    apply List.pairwise_append.mpr
    refine ⟨numbered.ordered, List.pairwise_singleton _ _, ?_⟩
    intro earlier member new isNew
    rw [List.mem_singleton.mp isNew]
    exact numbered.known earlier member
  · intro space
    rw [ownedEq]
    exact numbered.made space
  · intro space
    rw [ownedEq]
    exact numbered.aged space

theorem markDisposed (numbered : Numbered library) (space : SpaceId) :
    Numbered ((ProgramSpace.markDisposed space).apply library).2 := by
  have ownedEq := ProgramSpace.owned_markDisposed library space
  change Numbered (library.modifySpace space _)
  apply numbered.modifySpace space
  · exact fun _ => rfl
  · intro other
    change ∀ file ∈ ((ProgramSpace.markDisposed space).apply library).2.owned other, _
    rw [ownedEq]
    exact numbered.made other
  · intro other
    change (((ProgramSpace.markDisposed space).apply library).2.owned other).Pairwise _
    rw [ownedEq]
    exact numbered.aged other

theorem unregister (numbered : Numbered library) (space : SpaceId) :
    Numbered ((ProgramSpace.unregister space).apply library).2 := by
  have fewer : ((ProgramSpace.unregister space).apply library).2.registry.Sublist
      library.registry := by
    change (if library.registry.contains space then library.registry.erase space
      else library.registry.dropLast).Sublist _
    split
    · exact List.erase_sublist
    · exact List.dropLast_sublist _
  constructor
  · exact numbered.numbers
  · exact numbered.next
  · intro other member
    exact numbered.known other (fewer.subset member)
  · exact numbered.ordered.sublist fewer
  · exact numbered.made
  · exact numbered.aged

end Numbered

theorem Edited.numbered {library after : Library} (edited : Edited library after)
    (numbered : Numbered library) : Numbered after := by
  cases edited with
  | fileAdded space name quick opened => exact numbered.withFile name quick opened
  | fileStruck space file member => exact numbered.strike space file
  | fileDetached | symbolsRead | tableAssigned =>
    exact numbered.congr rfl rfl rfl (List.length_modify _ _ _)
  | _ => exact numbered.congr rfl rfl rfl rfl

theorem Settling.numbered {library after : Library} (settling : Settling library after)
    (numbered : Numbered library) : Numbered after := by
  cases settling with
  | created name => exact numbered.create name
  | closed space => exact numbered.markDisposed space
  | forgotten space => exact numbered.unregister space

theorem Rewritten.numbered {settles : Prop} {library after : Library}
    (rewritten : Rewritten settles library after) (numbered : Numbered library) :
    Numbered after := by
  induction rewritten with
  | refl => exact numbered
  | tail _ step ih =>
    rcases step with edited | ⟨_, settling⟩
    · exact edited.numbered ih
    · exact settling.numbered ih

/-! ### Numbers as they are read -/

namespace Numbered

variable {library : Library}

theorem numberOf (numbered : Numbered library) {space : SpaceId}
    (known : space.index < library.spaces.length) :
    library.numberOf space = space.index + 1 := by
  have read := congrArg (fun numbers : List Nat => numbers[space.index]?) numbered.numbers
  simp only [List.getElem?_map, List.getElem?_range' known] at read
  unfold Library.numberOf Library.space?
  rw [read]
  change 1 + 1 * space.index = space.index + 1
  omega

theorem registry_nodup (numbered : Numbered library) : library.registry.Nodup :=
  numbered.ordered.imp fun before same => by
    subst same
    exact Nat.lt_irrefl _ before

theorem numbers_increase (numbered : Numbered library) :
    (library.registry.map library.numberOf).Pairwise (· < ·) := by
  apply List.pairwise_map.mpr
  apply numbered.ordered.imp_of_mem
  intro first second inFirst inSecond before
  rw [numbered.numberOf (numbered.known first inFirst),
    numbered.numberOf (numbered.known second inSecond)]
  exact Nat.succ_lt_succ before

theorem numberOf_lt_next (numbered : Numbered library) {space : SpaceId}
    (member : space ∈ library.registry) : library.numberOf space < library.nextNumber := by
  have known := numbered.known space member
  rw [numbered.numberOf known, numbered.next]
  exact Nat.succ_lt_succ known

theorem numbers_nodup (numbered : Numbered library) :
    (library.spaces.map ProgramSpace.number).Nodup := by
  rw [numbered.numbers]
  exact List.nodup_range'

end Numbered

theorem Reachable.numbered {rules : Rules} {moment : Moment}
    (reachable : Reachable rules moment) : Numbered moment.library :=
  reachable.rewritten.numbered Numbered.initial

/-! ### Spaces that were disposed -/

theorem Library.closed_of_isDisposed {library : Library} {space : SpaceId}
    (known : (library.space? space).isSome) (disposed : library.isDisposed space = true) :
    library.Closed space := by
  obtain ⟨record, found⟩ := Option.isSome_iff_exists.mp known
  unfold Library.isDisposed at disposed
  rw [found] at disposed
  exact ⟨record, found, disposed⟩

namespace Moment

variable {moment : Moment} {space : SpaceId}

/-- Whatever its listeners do, a disposal that is called closes the space, and
the space lists no more than before. -/
theorem closed_start_dispose (reachable : Reachable .free moment)
    (known : (moment.library.space? space).isSome) :
    (moment.start (.dispose space)).library.Closed space ∧
      ((moment.start (.dispose space)).library.owned space).Sublist
        (moment.library.owned space) := by
  cases disposed : moment.library.isDisposed space with
  | true =>
    rw [start_dispose_of_disposed disposed]
    exact ⟨Library.closed_of_isDisposed known disposed, List.Sublist.refl _⟩
  | false =>
    rw [start_dispose_of_open disposed]
    have closing : ((ProgramSpace.removeAll space (moment.library.owned space).length).bind
        (ProgramSpace.closing space)).Rewrites True := by
      apply Routine.Reworks.rewrites
      apply (reworks_removeAll trivial _).bind
      intro _
      exact (Routine.reworks_edit (Edit.reworks_settling trivial fun _ => .forgotten space)).map
    have dwindles := (rewritten_proceed (.dispose space)
      ((moment.toWorld.note (.started (.dispose space))).after (ProgramSpace.markDisposed space))
      (closing _) reachable.rewrites).1.dwindles
    have closed : ((ProgramSpace.markDisposed space).apply moment.library).2.Closed space :=
      ProgramSpace.closed_markDisposed disposed
    have ownedEq := ProgramSpace.owned_markDisposed moment.library space space
    have still := dwindles.closed space closed
    refine ⟨still.1, still.2.trans ?_⟩
    change (((ProgramSpace.markDisposed space).apply moment.library).2.owned space).Sublist _
    rw [ownedEq]

theorem refuses_addObjectFile (disposed : moment.library.isDisposed space = true)
    (name : String) (quick : Option QuickId) :
    moment.Refuses (.addObjectFile space name quick)
      (.spaceDisposed (moment.library.spaceName space)) := by
  have refused := ProgramSpace.apply_addObjectFile_of_disposed disposed name quick
  exact refuses_of_edit rfl refused

theorem refuses_addSymbolFile (disposed : moment.library.isDisposed space = true)
    (name : String) (quick : Option QuickId) (table : TableRef) (flags : Double) :
    moment.Refuses (.addSymbolFile space name quick table flags)
      (.spaceDisposed (moment.library.spaceName space)) := by
  have refused := ProgramSpace.apply_addObjectFile_of_disposed disposed name quick
  exact refuses_of_edit (Routine.bind_assoc _ _ _) refused

end Moment

/-! ### The statement about runs -/

/-- At every moment of every run the registry has each space once, in the order
of their numbers, which are below the next one; no two spaces that were created
share a number. A space lists its object files in the order of their creation,
it is registered while it lists one, and a listed file can be given a table. Once
its disposal was called a space takes no object file any more. -/
theorem Reachable.registry_in_order {moment : Moment} (reachable : Reachable .free moment) :
    (moment.library.registry.Nodup ∧
      (moment.library.registry.map moment.library.numberOf).Pairwise (· < ·) ∧
      (∀ space ∈ moment.library.registry, (moment.library.space? space).isSome ∧
        moment.library.numberOf space < moment.library.nextNumber) ∧
      (moment.library.spaces.map ProgramSpace.number).Nodup) ∧
    (∀ space,
      ((moment.library.owned space).Pairwise fun earlier later => earlier.index < later.index) ∧
      (moment.library.owned space ≠ [] → space ∈ moment.library.registry)) ∧
    (∀ space, ∀ file ∈ moment.library.owned space, ∀ table,
      (Edit.assignTable file table).apply moment.library =
        (.ok (), moment.library.withTable file table)) ∧
    ∀ space, (moment.library.space? space).isSome →
      ∀ later, Meanwhile .free [] (moment.start (.dispose space)) later →
        (later.library.owned space).Sublist (moment.library.owned space) ∧
        (∀ further, Meanwhile .free [] later further →
          (further.library.owned space).Sublist (later.library.owned space)) ∧
        (∀ name quick, later.Refuses (.addObjectFile space name quick)
          (.spaceDisposed (later.library.spaceName space))) ∧
        ∀ name quick table flags, later.Refuses (.addSymbolFile space name quick table flags)
          (.spaceDisposed (later.library.spaceName space)) := by
  have numbered := reachable.numbered
  have registered := reachable.begun_free.sound.registered
  refine ⟨⟨numbered.registry_nodup, numbered.numbers_increase, ?_, numbered.numbers_nodup⟩,
    ?_, ?_, ?_⟩
  · intro space member
    refine ⟨?_, numbered.numberOf_lt_next member⟩
    unfold Library.space?
    rw [List.getElem?_eq_getElem (numbered.known space member)]
    rfl
  · intro space
    refine ⟨numbered.aged space, fun nonempty => ?_⟩
    obtain ⟨file, member⟩ := List.exists_mem_of_ne_nil _ nonempty
    exact registered.owner space file member
  · intro space file member table
    rw [Edit.apply_assignTable, if_pos (registered.attached space file member)]
  · intro space known later meanwhile
    obtain ⟨closed, fewer⟩ := Moment.closed_start_dispose reachable known
    have disposing : Reachable .free (moment.start (.dispose space)) :=
      .start (.dispose space) reachable trivial fun _ _ => trivial
    obtain ⟨closedLater, fewerLater⟩ :=
      (meanwhile.rewritten disposing).dwindles.closed space closed
    refine ⟨fewerLater.trans fewer, ?_, ?_, ?_⟩
    · intro further onward
      have reached := meanwhile.reachable disposing
      exact ((onward.rewritten reached).dwindles.closed space closedLater).2
    · exact Moment.refuses_addObjectFile closedLater.isDisposed
    · exact Moment.refuses_addSymbolFile closedLater.isDisposed

/-- A space with two object files, its disposal, and what the listener that is
told of the first removal finds. -/
theorem registry_in_order_furnished :
    (Moment.furnished.library.registry.map Moment.furnished.library.numberOf).Pairwise (· < ·) ∧
    (Edit.assignTable { index := 1 } (.reader { index := 0 })).apply Moment.furnished.library =
      (.ok (), Moment.furnished.library.withTable { index := 1 } (.reader { index := 0 })) ∧
    ((Moment.furnished.start (.dispose { index := 0 })).library.owned { index := 0 }).Sublist
      (Moment.furnished.library.owned { index := 0 }) ∧
    (Moment.furnished.start (.dispose { index := 0 })).Refuses
      (.addObjectFile { index := 0 } "c.out" none) (.spaceDisposed "program space 1") := by
  obtain ⟨⟨_, increase, _, _⟩, _, assignable, dwindle⟩ :=
    reachable_furnished.registry_in_order
  obtain ⟨fewer, _, refuses, _⟩ := dwindle { index := 0 } rfl _ .refl
  exact ⟨increase, assignable { index := 0 } { index := 1 } (by decide) _, fewer,
    refuses "c.out" none⟩

end ReaderTrace
