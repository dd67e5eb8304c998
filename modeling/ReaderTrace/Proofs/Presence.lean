import ReaderTrace.Proofs.Lookup
import ReaderTrace.Proofs.Representation

/-!
Which functions a logged object file offers.

A shadow has a function for every one that its base table had when the shadow
was built. It is not told when a reader fills or empties a place of the base
table later, or of what that table shows through from, so the two offer the same
as long as nobody does this to the base table.
-/

namespace ReaderTrace

variable {license : Operation → Prop} {world after : World} {file : ObjectFileId}
  {data : DebugData}

/-! ### Installations -/

/-- Each entry came with one move of the run. -/
theorem Begun.installation (begun : Begun license world)
    (entry : world.library.debugDataOf? file = some data) :
    ∃ past next, Begun license past ∧ Move license past next ∧ Path license next world ∧
      past.library.debugDataOf? file ≠ some data ∧
      next.library.debugDataOf? file = some data := by
  induction begun with
  | refl => cases entry
  | @tail world after earlier move ih =>
    by_cases before : world.library.debugDataOf? file = some data
    · obtain ⟨past, next, reached, installs, since, absent, present⟩ := ih before
      exact ⟨past, next, reached, installs, since.tail move, absent, present⟩
    · exact ⟨world, after, earlier, move, .refl, before, entry⟩

/-- The move that brings an entry builds its shadow from the library before the
move. -/
theorem Move.installs (move : Move license world after) (sound : Sound world.library)
    (absent : world.library.debugDataOf? file ≠ some data)
    (present : after.library.debugDataOf? file = some data) :
    world.library.HasTable data.base ∧ ∃ id, data.shadow = .shadow id ∧
      after.library.shadows[id.index]? = some (Shadow.build world.library data.base file) := by
  obtain ⟨id, shadowEq, ⟨built, found, baseEq, hostEq⟩, _⟩ :=
    ((move.sound sound).layer.wraps file data present).shadow
  rcases move.quiet_or_relogged with quiet | relogging
  · rw [(quiet.same file).entry] at present
    exact absurd present absent
  · have grown := relogging.grown sound
    rcases grown.entries file data present with before | ⟨other, otherEq, beyond⟩
    · exact absurd before absent
    · have idEq : other = id := TableRef.shadow.inj (otherEq.symm.trans shadowEq)
      subst other
      obtain ⟨known, builtEq⟩ := grown.fresh id.index built beyond found
      rw [baseEq] at known
      rw [baseEq, hostEq] at builtEq
      exact ⟨known, id, shadowEq, found.trans (congrArg some builtEq)⟩

/-! ### Tables to which nobody assigns -/

/-- The operations after which a place of the table, or what it shows through from,
may be another. -/
def Operation.Assigns (table : TableRef) : Operation → Prop
  | .reshapeTable id _ => .reader id = table
  | .assignSlot other _ _ => other = table
  | .assignProbeTable other _ => other = table
  | _ => False

/-- A table of a reader is the same in both libraries, and if it is new then its
probe table exists already. -/
structure Stocked (library after : Library) (id : ReaderTableId) : Prop where
  kept : ∀ table, library.readerTables[id.index]? = some table →
    after.readerTables[id.index]? = some table
  made : ∀ table, after.readerTables[id.index]? = some table →
    library.readerTables[id.index]? = some table ∨
      ∀ probes, table.probes.read = some probes → probes.index < library.probeTables.length
  probes : library.probeTables.length ≤ after.probeTables.length

/-- The probe table of a reader's table exists. -/
def Library.Complete (library : Library) (id : ReaderTableId) : Prop :=
  ∀ table probes, library.readerTables[id.index]? = some table →
    table.probes.read = some probes → probes.index < library.probeTables.length

section Stocked

variable {library later : Library} {id : ReaderTableId}

theorem Stocked.of_same (tables : later.readerTables = library.readerTables)
    (probes : library.probeTables.length ≤ later.probeTables.length) :
    Stocked library later id := by
  constructor
  · intro table found
    rw [tables]
    exact found
  · intro table found
    rw [tables] at found
    exact Or.inl found
  · exact probes

theorem Stocked.of_bare (same : later.bare = library.bare) : Stocked library later id := by
  have tables : later.bare.readerTables = library.bare.readerTables := by rw [same]
  have probes : later.bare.probeTables = library.bare.probeTables := by rw [same]
  exact .of_same tables (Nat.le_of_eq (congrArg List.length probes.symm))

theorem Stocked.modified {other : ReaderTableId} (different : other ≠ id)
    (change : ReaderTable → ReaderTable) :
    Stocked library
      { library with readerTables := library.readerTables.modify other.index change } id := by
  have same : (library.readerTables.modify other.index change)[id.index]? =
      library.readerTables[id.index]? := by
    apply List.getElem?_modify_ne
    intro indexEq
    exact different (by cases other; cases id; simp_all)
  constructor
  · intro table found
    exact same.trans found
  · intro table found
    exact Or.inl (same.symm.trans found)
  · exact Nat.le_refl _

theorem Stocked.added {table : ReaderTable}
    (admissible : (Operation.newReaderTable table).Admissible library) :
    Stocked library { library with readerTables := library.readerTables ++ [table] } id := by
  constructor
  · intro other found
    have known : id.index < library.readerTables.length := (List.getElem?_eq_some_iff.mp found).1
    exact (List.getElem?_append_left known).trans found
  · intro other found
    change (library.readerTables ++ [table])[id.index]? = some other at found
    rw [List.getElem?_append] at found
    split at found
    · exact Or.inl found
    · rw [List.mem_singleton.mp (List.mem_of_getElem? found)]
      exact Or.inr admissible
  · exact Nat.le_refl _

theorem Stocked.complete (stocked : Stocked library later id) (complete : library.Complete id) :
    later.Complete id := by
  intro table probes found read
  rcases stocked.made table found with before | existed
  · exact Nat.lt_of_lt_of_le (complete table probes before read) stocked.probes
  · exact Nat.lt_of_lt_of_le (existed probes read) stocked.probes

theorem Library.function?_of_readerTable
    (same : later.readerTables[id.index]? = library.readerTables[id.index]?) (slot : Slot) :
    later.function? (.reader id) slot = library.function? (.reader id) slot := by
  change (later.readerTables[id.index]?).bind _ = (library.readerTables[id.index]?).bind _
  rw [same]

theorem Library.Complete.isSome_probes? (complete : library.Complete id) {table : ReaderTable}
    (found : library.readerTables[id.index]? = some table) :
    (library.probes? (.reader id)).isSome = table.probes.read.isSome := by
  change ((library.readerTables[id.index]?).bind _).isSome = _
  rw [found]
  cases read : table.probes.read with
  | none => simp [read]
  | some probes => simp [read, complete table probes found read]

/-- Two libraries with the same table of a reader offer the same functions. -/
theorem isSome_method?_of_readerTable (known : id.index < library.readerTables.length)
    (same : later.readerTables[id.index]? = library.readerTables[id.index]?)
    (complete : library.Complete id) (completeLater : later.Complete id) (method : Option Slot) :
    (later.method? (.reader id) method).isSome =
      (library.method? (.reader id) method).isSome := by
  cases method with
  | some slot =>
    rw [Library.method?_some, Library.method?_some, Library.function?_of_readerTable same]
  | none =>
    have found : library.readerTables[id.index]? = some library.readerTables[id.index] :=
      List.getElem?_eq_getElem known
    rw [Library.method?_none, Library.method?_none, Option.isSome_map, Option.isSome_map,
      complete.isSome_probes? found, completeLater.isSome_probes? (same.trans found)]

end Stocked

section Unassigned

variable {id : ReaderTableId}

theorem Aside.stocked (aside : Aside license world after)
    (unassigned : ∀ operation, license operation → ¬operation.Assigns (.reader id)) :
    Stocked world.library after.library id := by
  cases aside with
  | probeTableMade function =>
    exact .of_same rfl (List.prefix_append _ _).length_le
  | readerTableMade table admissible => exact .added admissible
  | tableReshaped other shape licensed =>
    have different : other ≠ id := fun same => unassigned _ licensed (congrArg _ same)
    exact .modified different _
  | slotAssigned table slot function licensed =>
    cases table with
    | reader other =>
      have different : other ≠ id := fun same => unassigned _ licensed (congrArg _ same)
      exact .modified different _
    | shadow other => exact .of_same rfl (Nat.le_refl _)
  | probeTableAssigned table probes licensed =>
    cases table with
    | reader other =>
      have different : other ≠ id := fun same => unassigned _ licensed (congrArg _ same)
      exact .modified different _
    | shadow other => exact .of_same rfl (Nat.le_refl _)
  | probesAssigned table function =>
    unfold World.after Edit.assignProbes
    simp only [Edit.apply_bind, Edit.apply_get]
    split
    · exact .of_same rfl (Nat.le_of_eq (List.length_set ..).symm)
    · exact .of_same rfl (Nat.le_refl _)
  | noted | symbolsRead | quickFunctionsMade | described | streamSet | rendered
    | eventCreated | subscribed => exact .of_same rfl (Nat.le_refl _)

theorem Move.stocked (move : Move license world after) (sound : Sound world.library)
    (unassigned : ∀ operation, license operation → ¬operation.Assigns (.reader id)) :
    Stocked world.library after.library id := by
  cases move with
  | aside aside => exact aside.stocked unassigned
  | relogged relogging => exact .of_bare (relogging.bare sound)
  | fileAdded space name quick opened =>
    change Stocked _ ((ProgramSpace.addObjectFile space name quick).apply world.library).2 id
    rw [ProgramSpace.apply_addObjectFile]
    split <;> exact .of_same rfl (Nat.le_refl _)
  | fileStruck space struck member =>
    change Stocked _ ((ProgramSpace.strike space struck).apply world.library).2 id
    rw [ProgramSpace.apply_strike]
    split <;> exact .of_same rfl (Nat.le_refl _)
  | spaceCreated | fileDetached | spaceClosed | spaceForgotten =>
    exact .of_same rfl (Nat.le_refl _)

theorem Begun.complete (begun : Begun license world)
    (unassigned : ∀ operation, license operation → ¬operation.Assigns (.reader id)) :
    world.library.Complete id := by
  induction begun with
  | refl =>
    intro table probes found
    cases found
  | tail earlier move ih => exact (move.stocked (Begun.sound earlier) unassigned).complete ih

theorem Path.readerTable (path : Path license world after) (begun : Begun license world)
    (unassigned : ∀ operation, license operation → ¬operation.Assigns (.reader id))
    (known : id.index < world.library.readerTables.length) :
    after.library.readerTables[id.index]? = world.library.readerTables[id.index]? := by
  induction path with
  | refl => rfl
  | tail earlier move ih =>
    have stocked := move.stocked (Path.sound earlier begun.sound) unassigned
    rw [List.getElem?_eq_getElem known] at ih ⊢
    exact stocked.kept _ ih

end Unassigned

/-- A table to which nobody assigns keeps offering the same functions. -/
theorem Path.isSome_method? {table : TableRef} (path : Path license world after)
    (begun : Begun license world)
    (unassigned : ∀ operation, license operation → ¬operation.Assigns table)
    (known : world.library.HasTable table) (method : Option Slot) :
    (after.library.method? table method).isSome = (world.library.method? table method).isSome := by
  cases table with
  | reader id =>
    have same := path.readerTable begun unassigned known
    have complete := begun.complete unassigned
    have begunAfter : Begun license after := begun.trans path
    have completeAfter := begunAfter.complete unassigned
    exact isSome_method?_of_readerTable known same complete completeAfter method
  | shadow id =>
    have shadowEq : after.library.shadows[id.index]? = world.library.shadows[id.index]? :=
      getElem?_shadows_of_added (Path.shadows path begun.sound) known
    cases method with
    | some slot =>
      change (((after.library.shadows[id.index]?).bind _).map _).isSome =
        (((world.library.shadows[id.index]?).bind _).map _).isSome
      rw [shadowEq]
    | none =>
      change (((after.library.shadows[id.index]?).bind _).map _).isSome =
        (((world.library.shadows[id.index]?).bind _).map _).isSome
      rw [shadowEq]

/-! ### The statement about runs -/

/-- A live object file with logging offers, through its active table, what its
base table offered just before the move that installed the logging. In a run in
which nobody assigns to the base table that is what it offers still. -/
theorem Reachable.offers_as_installed {allowed : Operation → Prop} {moment : Moment}
    (reachable : Reachable (.only allowed) moment) {file : ObjectFileId} {data : DebugData}
    (live : moment.library.Lists file)
    (entry : moment.library.debugDataOf? file = some data) :
    moment.library.tableOf? file = some data.shadow ∧
    (∃ past next, Begun allowed past ∧ Move allowed past next ∧
      Path allowed next moment.toWorld ∧ past.library.debugDataOf? file ≠ some data ∧
      next.library.debugDataOf? file = some data ∧
      ∀ method, (moment.library.method? data.shadow method).isSome =
        (past.library.method? data.base method).isSome) ∧
    ((∀ operation, allowed operation → ¬operation.Assigns data.base) →
      ∀ method, (moment.library.method? data.shadow method).isSome =
        (moment.library.method? data.base method).isSome) := by
  have begun : Begun allowed moment.toWorld :=
    reachable.begun fun _ operation permitted => permitted operation rfl
  have attached := begun.sound.registered.isAttached_of_lists live
  have active := (begun.sound.layer.wraps file data entry).active attached
  obtain ⟨past, next, reached, installs, since, absent, present⟩ := Begun.installation begun entry
  have soundPast := Begun.sound reached
  obtain ⟨known, id, shadowEq, built⟩ := installs.installs soundPast absent present
  have builtStill : moment.library.shadows[id.index]? =
      some (Shadow.build past.library data.base file) := by
    obtain ⟨added, appended⟩ := Path.shadows since (installs.sound soundPast)
    have bound := (List.getElem?_eq_some_iff.mp built).1
    rw [← appended, List.getElem?_append_left bound]
    exact built
  have offers : ∀ method, (moment.library.method? data.shadow method).isSome =
      (past.library.method? data.base method).isSome := by
    intro method
    rw [shadowEq, Library.method?_shadow builtStill, Option.isSome_map]
  constructor
  · exact active
  · constructor
    · exact ⟨past, next, reached, installs, since, absent, present, offers⟩
    · intro unassigned method
      have path : Path allowed past moment.toWorld := since.head installs
      rw [offers method, Path.isSome_method? path reached unassigned known method]

/-- A reader's table that relocates sections. -/
def ReaderTable.relocating : ReaderTable :=
  { functions := fun slot =>
      { own := none
        behind := if slot = .relocate then some { index := 0 } else none }
    probes := { own := none, behind := none } }

/-- An object file whose reader relocates sections. -/
def Moment.relocatable : Moment :=
  let made := (Moment.initial.start (.createSpace none)).start (.newReaderTable .relocating)
  (made.start (.addObjectFile { index := 0 } "a.out" none)).start
    (.setTable { index := 0 } (.reader { index := 0 }))

theorem reachable_relocatable {allowed : Operation → Prop}
    (permitted : ∀ operation : Operation, operation.Gated →
      ¬operation.Assigns (.reader { index := 0 }) → allowed operation) :
    Reachable (.only allowed) Moment.relocatable := by
  have may : ∀ {moment : Moment} {operation : Operation}, operation.Gated →
      ¬operation.Assigns (.reader { index := 0 }) →
      Rules.only allowed moment (.started operation) := fun gated unassigned =>
    Rules.only_started (permitted _ gated unassigned)
  have created : Reachable (.only allowed) _ :=
    .start (.createSpace none) .initial trivial (may trivial not_false)
  have made : Reachable (.only allowed) _ :=
    .start (.newReaderTable .relocating) created (fun _ found => by cases found)
      (may trivial not_false)
  have added : Reachable (.only allowed) _ :=
    .start (.addObjectFile { index := 0 } "a.out" none) made trivial (may trivial not_false)
  exact .start (.setTable { index := 0 } (.reader { index := 0 })) added Nat.zero_lt_one
    (may trivial not_false)

def Moment.traced : Moment :=
  Moment.relocatable.start (.setDebug true)

theorem reachable_traced {allowed : Operation → Prop}
    (permitted : ∀ operation : Operation, operation.Gated →
      ¬operation.Assigns (.reader { index := 0 }) → allowed operation) :
    Reachable (.only allowed) Moment.traced := by
  have debugs := permitted (.setDebug true) trivial not_false
  exact .start (.setDebug true) (reachable_relocatable permitted) trivial
    (Rules.only_started debugs)

theorem lists_traced : Moment.traced.library.Lists { index := 0 } :=
  ⟨{ index := 0 }, by decide⟩

/-- Clients assign to no place of the one table that is set. -/
theorem offers_as_installed_traced :
    Moment.traced.library.tableOf? { index := 0 } = some (.shadow { index := 0 }) ∧
    (Moment.traced.library.method? (.shadow { index := 0 }) (some .relocate)).isSome = true ∧
    (Moment.traced.library.method? (.shadow { index := 0 }) (some .read)).isSome = false ∧
    ∀ method, (Moment.traced.library.method? (.shadow { index := 0 }) method).isSome =
      (Moment.traced.library.method? (.reader { index := 0 }) method).isSome := by
  have traced : Reachable (.only fun operation => ¬operation.Assigns (.reader { index := 0 }))
      Moment.traced := reachable_traced fun _ _ unassigned => unassigned
  have entry : Moment.traced.library.debugDataOf? { index := 0 } =
      some { base := .reader { index := 0 }, shadow := .shadow { index := 0 } } := rfl
  have facts := traced.offers_as_installed lists_traced entry
  exact ⟨facts.1, rfl, rfl, facts.2.2 fun _ unassigned => unassigned⟩

/-- A reader fills a place of its table when the logging is installed already. -/
def Moment.filled : Moment :=
  Moment.logging.start (.assignSlot (.reader { index := 0 }) .newInit (some { index := 0 }))

/-- The active table does not offer the function that its base table has. -/
theorem filled_offers_less :
    Reachable .gated Moment.filled ∧ Moment.filled.pending = [] ∧
    Moment.filled.library.Lists { index := 0 } ∧
    Moment.filled.library.isInstalled { index := 0 } = true ∧
    Moment.filled.library.tableOf? { index := 0 } = some (.shadow { index := 0 }) ∧
    Moment.filled.library.baseOf? { index := 0 } = some (.reader { index := 0 }) ∧
    Moment.filled.library.function? (.shadow { index := 0 }) .newInit = none ∧
    Moment.filled.library.function? (.reader { index := 0 }) .newInit =
      some (.client { index := 0 }) := by
  have filled : Reachable .gated Moment.filled :=
    .start (.assignSlot (.reader { index := 0 }) .newInit (some { index := 0 }))
      (reachable_logging fun _ gated => gated) trivial (Rules.only_started trivial)
  exact ⟨filled, rfl, ⟨{ index := 0 }, by decide⟩, rfl, rfl, rfl, rfl, rfl⟩

end ReaderTrace
