import ReaderTrace.Proofs.Presence
import ReaderTrace.Proofs.Trail

/-!
How a shadow is built, and that it stays as it was built.

A shadow has a place for every place of its base table that reads as present at that
moment, whether the table has it of its own or shows it through from behind, and for
no other. Nothing else is different when it has been built. From then on whoever
assigns to it or to its probe table fails, and shadows are only ever added.
-/

namespace ReaderTrace

variable {license : Operation → Prop} {world after : World}

/-! ### What shadows and probe tables are added to -/

/-- Shadows and probe tables are added behind those that exist. -/
structure Accumulates (library later : Library) : Prop where
  shadows : library.shadows <+: later.shadows
  probes : library.probeTables.length ≤ later.probeTables.length

section Accumulates

variable {library middle later : Library} {settles : Prop}

theorem Accumulates.trans (first : Accumulates library middle)
    (second : Accumulates middle later) : Accumulates library later :=
  ⟨first.shadows.trans second.shadows, Nat.le_trans first.probes second.probes⟩

theorem Edited.accumulates (edited : Edited library later) : Accumulates library later := by
  cases edited with
  | shadowBuilt base host => exact ⟨List.prefix_append _ _, Nat.le_refl _⟩
  | probeTableMade function => exact ⟨List.prefix_rfl, (List.prefix_append _ _).length_le⟩
  | probeTableModified id function =>
    exact ⟨List.prefix_rfl, Nat.le_of_eq (List.length_set ..).symm⟩
  | _ => exact ⟨List.prefix_rfl, Nat.le_refl _⟩

theorem Rewritten.accumulates (rewritten : Rewritten settles library later) :
    Accumulates library later := by
  induction rewritten with
  | refl => exact ⟨List.prefix_rfl, Nat.le_refl _⟩
  | tail _ step ih =>
    rcases step with edited | ⟨_, settling⟩
    · exact ih.trans edited.accumulates
    · cases settling with
      | created | closed | forgotten => exact ⟨ih.shadows, ih.probes⟩

end Accumulates

/-! ### Probe tables that exist -/

/-- An operation that assigns no probe table but one of the first `count`. -/
def Operation.Within (count : Nat) : Operation → Prop
  | .assignProbeTable _ (some chosen) => chosen.index < count
  | _ => True

theorem Operation.Within.mono {operation : Operation} {count more : Nat}
    (within : operation.Within count) (fewer : count ≤ more) : operation.Within more := by
  cases operation with
  | assignProbeTable table probes =>
    cases probes with
    | none => trivial
    | some probes => exact Nat.lt_of_lt_of_le within fewer
  | _ => trivial

theorem Operation.Admissible.within {operation : Operation} {library : Library}
    (admissible : operation.Admissible library) :
    operation.Within library.probeTables.length := by
  cases operation with
  | assignProbeTable table probes =>
    cases probes with
    | none => trivial
    | some probes => exact admissible probes rfl
  | _ => trivial

theorem Reachable.weaken {rules weaker : Rules}
    (permits : ∀ moment happening, rules moment happening → weaker moment happening)
    {moment : Moment} (reachable : Reachable rules moment) : Reachable weaker moment := by
  induction reachable with
  | initial => exact .initial
  | start operation _ admissible permitted ih =>
    exact .start operation ih admissible (permits _ _ permitted)
  | resume reply _ waiting permitted ih => exact .resume reply ih waiting (permits _ _ permitted)

/-- In a run that has led to a moment, only probe tables that exist there were
assigned. -/
theorem Reachable.within {moment : Moment} (reachable : Reachable .free moment) :
    Reachable (.only (Operation.Within moment.library.probeTables.length)) moment := by
  induction reachable with
  | initial => exact .initial
  | @start moment operation before admissible permitted ih =>
    have rewritten := (Moment.rewritten_start operation before.rewrites).1
    have fewer := (Rewritten.accumulates rewritten).probes
    have known := admissible.within.mono fewer
    refine .start operation (ih.weaken ?_) admissible (Rules.only_started known)
    intro _ _ only started same
    exact (only started same).mono fewer
  | @resume moment frame rest reply before waiting permitted ih =>
    have rewritten := (Moment.rewritten_resume reply waiting before.rewrites).1
    have fewer := (Rewritten.accumulates rewritten).probes
    refine .resume reply (ih.weaken ?_) waiting ?_
    · intro _ _ only started same
      exact (only started same).mono fewer
    · intro started same
      cases same

/-- Each table's probe table is one of the first `count`, or exists. -/
def Library.Bounded (library : Library) (count : Nat) : Prop :=
  ∀ table ∈ library.readerTables, ∀ probes, table.probes.read = some probes →
    probes.index < max count library.probeTables.length

section Bounded

variable {library later : Library} {count : Nat}

theorem Library.Bounded.of_same (bounded : library.Bounded count)
    (tables : later.readerTables = library.readerTables)
    (probes : library.probeTables.length ≤ later.probeTables.length) : later.Bounded count := by
  intro table member probe read
  rw [tables] at member
  have before := bounded table member probe read
  omega

/-- A table is changed and gets no probe table beyond the first `count` but one that
exists. -/
theorem Library.Bounded.modify (bounded : library.Bounded count) (id : ReaderTableId)
    {change : ReaderTable → ReaderTable}
    (kept : ∀ table probes, (change table).probes.read = some probes →
      table.probes.read = some probes ∨
        probes.index < max count library.probeTables.length) :
    Library.Bounded
      { library with readerTables := library.readerTables.modify id.index change } count := by
  intro table member probe read
  obtain ⟨index, found⟩ := List.mem_iff_getElem?.mp member
  rw [List.getElem?_modify] at found
  obtain ⟨old, oldFound, changed⟩ := Option.map_eq_some_iff.mp found
  have oldMember := List.mem_of_getElem? oldFound
  split at changed
  · rw [← changed] at read
    rcases kept old probe read with before | few
    · exact bounded old oldMember probe before
    · exact few
  · have same : old = table := changed
    rw [← same] at read
    exact bounded old oldMember probe read

theorem Aside.bounded (within : ∀ operation, license operation → operation.Within count)
    (aside : Aside license world after) (bounded : world.library.Bounded count) :
    after.library.Bounded count := by
  cases aside with
  | probeTableMade function =>
    exact bounded.of_same rfl (List.prefix_append _ _).length_le
  | readerTableMade table admissible =>
    intro other member probe read
    rcases List.mem_append.mp member with old | new
    · exact bounded other old probe read
    · rw [List.mem_singleton.mp new] at read
      exact Nat.lt_of_lt_of_le (admissible probe read) (Nat.le_max_right _ _)
  | tableReshaped id shape licensed admissible =>
    apply bounded.modify id
    intro table probe read
    exact Or.inr (Nat.lt_of_lt_of_le (admissible probe read) (Nat.le_max_right _ _))
  | slotAssigned table slot function licensed =>
    cases table with
    | reader id => exact bounded.modify id fun _ _ read => Or.inl read
    | shadow id => exact bounded
  | probeTableAssigned table probes licensed =>
    cases table with
    | shadow id => exact bounded
    | reader id =>
      apply bounded.modify id
      intro table probe read
      have assigned : probes = some probe := read
      rw [assigned] at licensed
      exact Or.inr (Nat.lt_of_lt_of_le (within _ licensed) (Nat.le_max_left _ _))
  | probesAssigned table function =>
    unfold World.after Edit.assignProbes
    simp only [Edit.apply_bind, Edit.apply_get]
    split
    · exact bounded.of_same rfl (Nat.le_of_eq (List.length_set ..).symm)
    · exact bounded
  | noted | symbolsRead | quickFunctionsMade | described | streamSet | rendered
    | eventCreated | subscribed => exact bounded

theorem Move.bounded (within : ∀ operation, license operation → operation.Within count)
    (move : Move license world after) (sound : Sound world.library)
    (bounded : world.library.Bounded count) : after.library.Bounded count := by
  cases move with
  | aside aside => exact aside.bounded within bounded
  | relogged relogging =>
    have bareEq := relogging.bare sound
    have tables : after.library.bare.readerTables = world.library.bare.readerTables := by
      rw [bareEq]
    have probes : after.library.bare.probeTables = world.library.bare.probeTables := by
      rw [bareEq]
    exact bounded.of_same tables (Nat.le_of_eq (congrArg List.length probes.symm))
  | fileAdded space name quick opened =>
    change ((ProgramSpace.addObjectFile space name quick).apply world.library).2.Bounded count
    rw [ProgramSpace.apply_addObjectFile_of_open opened]
    exact bounded
  | fileStruck space file member =>
    change ((ProgramSpace.strike space file).apply world.library).2.Bounded count
    rw [ProgramSpace.apply_strike_of_mem member]
    exact bounded
  | spaceCreated | fileDetached | spaceClosed | spaceForgotten => exact bounded

theorem Begun.bounded (within : ∀ operation, license operation → operation.Within count)
    (begun : Begun license world) : world.library.Bounded count := by
  induction begun with
  | refl => intro table member; cases member
  | tail earlier move ih => exact move.bounded within (Begun.sound earlier) ih

end Bounded

/-- At every moment of every run the probe table of a reader's table exists. -/
theorem Reachable.complete {moment : Moment} (reachable : Reachable .free moment)
    (id : ReaderTableId) : moment.library.Complete id := by
  have begun : Begun (Operation.Within moment.library.probeTables.length) moment.toWorld :=
    reachable.within.begun fun _ operation permitted => permitted operation rfl
  intro table probes found read
  have bounded := begun.bounded (fun _ within => within) table (List.mem_of_getElem? found) probes
    read
  rwa [Nat.max_self] at bounded

/-! ### What a shadow shows -/

/-- The names of the places at which something is found, in the order of the slots. -/
def Library.keys (library : Library) (table : TableRef) : List String :=
  ((Slot.all.filter fun slot => (library.function? table slot).isSome).map Slot.name) ++
    (if (library.probes? table).isSome then [probeTableName] else [])

/-- The names of the places that read as present. What shows through from behind
counts, what is hidden does not. -/
def ReaderTable.keys (table : ReaderTable) : List String :=
  ((Slot.all.filter fun slot => (table.functions slot).read.isSome).map Slot.name) ++
    (if table.probes.read.isSome then [probeTableName] else [])

/-- The names in the probe table of a shadow that has one. -/
def Shadow.probeKeys (shadow : Shadow) : Option (List String) :=
  shadow.probes.map fun _ => [probesName]

/-- The shadow has the keys that the table `base` has in `library`, and shows what the
table shows there in whatever library the shadow is: a method that is found in the
table is found in the shadow, behind a function that forwards to the one found in the
table, on the receiver found there. -/
structure Shadow.Mirrors (shadow : Shadow) (library : Library) (base : TableRef)
    (host : ObjectFileId) : Prop where
  keys : shadow.keys = library.keys base
  ordered : shadow.keys.Sublist (Slot.all.map Slot.name ++ [probeTableName])
  probeKeys : shadow.probeKeys = (library.probes? base).map fun _ => [probesName]
  names : ∀ (later : Library) (id : ShadowId), later.shadows[id.index]? = some shadow →
    later.presentNames (.shadow id) = library.presentNames base
  wraps : ∀ (later : Library) (id : ShadowId), later.shadows[id.index]? = some shadow →
    ∀ method, later.method? (.shadow id) method =
      (library.method? base method).map fun found =>
        (method.elim (.probes (.shadow id)) fun _ => .table (.shadow id),
          .forward (library.forwarding host method found.1) found.2)

section Shows

variable {library : Library}

theorem Shadow.keys_sublist (shadow : Shadow) :
    shadow.keys.Sublist (Slot.all.map Slot.name ++ [probeTableName]) := by
  apply List.Sublist.append
  · exact List.filter_sublist.map Slot.name
  · split
    · exact List.Sublist.refl _
    · exact List.nil_sublist _

theorem Shadow.mirrors_build (library : Library) (base : TableRef) (host : ObjectFileId) :
    (build library base host).Mirrors library base host where
  keys := by simp [keys, build, Library.keys]
  ordered := keys_sublist _
  probeKeys := Option.map_map ..
  names := by
    intro later id built
    apply Library.presentNames_congr
    intro method
    rw [Library.method?_shadow built, Option.isSome_map]
  wraps := by
    intro later id built method
    exact Library.method?_shadow built method

/-- What is found in a reader's table is what reads as present there. -/
theorem Library.keys_reader {id : ReaderTableId} {table : ReaderTable}
    (found : library.readerTables[id.index]? = some table) (complete : library.Complete id) :
    library.keys (.reader id) = table.keys := by
  have functions : ∀ slot, (library.function? (.reader id) slot).isSome =
      (table.functions slot).read.isSome := by
    intro slot
    simp [function?, found]
  unfold keys ReaderTable.keys
  rw [funext functions, complete.isSome_probes? found]

theorem Library.keys_shadow {id : ShadowId} {shadow : Shadow}
    (found : library.shadows[id.index]? = some shadow) :
    library.keys (.shadow id) = shadow.keys := by
  simp [keys, function?, probes?, Shadow.keys, found]

end Shows

/-! ### Assignments to a shadow -/

/-- An operation that assigns to a shadow or to its probe table. -/
def Operation.AssignsShadow (operation : Operation) (id : ShadowId) : Prop :=
  operation.Assigns (.shadow id) ∨ ∃ function, operation = .assignProbes (.shadow id) function

/-- The operation fails on a frozen table, and this is all that happens. -/
def Moment.Rejects (moment : Moment) (operation : Operation) : Prop :=
  moment.start operation =
    { library := moment.library
      history :=
        moment.history ++ [.started operation, .finished operation (.error (.fault .frozenTable))]
      pending := moment.pending }

/-- The probe table found in a shadow is the shadow's own. -/
theorem assignProbes_shadow (library : Library) (id : ShadowId) (function : FunctionId) :
    (Edit.assignProbes (.shadow id) function).apply library =
      (.error (.fault .frozenTable), library) := by
  unfold Edit.assignProbes
  simp only [Edit.apply_bind, Edit.apply_get]
  cases found : library.probes? (.shadow id) with
  | none => rfl
  | some probes =>
    obtain ⟨shadow, _, ownEq⟩ := Option.bind_eq_some_iff.mp found
    obtain ⟨function, _, rfl⟩ := Option.map_eq_some_iff.mp ownEq
    rfl

theorem Moment.rejects_of_failed_edit {moment : Moment} {operation : Operation}
    {change : Edit Unit}
    (begins : operation.routine = (Routine.edit change).bind fun _ => .done (.ok .nothing))
    (failed : change.apply moment.library = (.error (.fault .frozenTable), moment.library)) :
    moment.Rejects operation := by
  have rejected := start_of_raised_edit begins (congrArg Prod.fst failed)
  rw [failed] at rejected
  exact rejected

/-- Whoever assigns to a shadow, or to its probe table, fails and changes nothing. -/
theorem Moment.rejects (moment : Moment) {operation : Operation} {id : ShadowId}
    (assigns : operation.AssignsShadow id) : moment.Rejects operation := by
  rcases assigns with own | ⟨function, rfl⟩
  · cases operation with
    | assignSlot table slot function =>
      cases own
      exact rejects_of_failed_edit rfl rfl
    | assignProbeTable table probes =>
      cases own
      exact rejects_of_failed_edit rfl rfl
    | _ => cases own
  · exact rejects_of_failed_edit rfl (assignProbes_shadow moment.library id function)

/-! ### The statement about runs -/

/-- At every moment of every run, a shadow can be built of every table. It has the keys
that the table has and shows what the table shows, and apart from it the library is as
before. The keys of a reader's table are the places that read as present; those of a
shadow are its own. Every shadow of the run was built so by one move of it. However the
run goes on, the shadow remains, and whoever assigns to it fails. -/
theorem Reachable.shadow_construction {moment : Moment} (reachable : Reachable .free moment) :
    (∀ base host, moment.library.HasTable base →
      ∃ shadow : Shadow,
        (Logging.newShadow base host).apply moment.library =
          (.ok (.shadow { index := moment.library.shadows.length }),
            { moment.library with shadows := moment.library.shadows ++ [shadow] }) ∧
        shadow.Mirrors moment.library base host) ∧
    (∀ (id : ReaderTableId) (table : ReaderTable),
      moment.library.readerTables[id.index]? = some table →
      moment.library.keys (.reader id) = table.keys) ∧
    ∀ (id : ShadowId) (shadow : Shadow), moment.library.shadows[id.index]? = some shadow →
      (∃ past next : World, Begun (fun _ => True) past ∧ Move (fun _ => True) past next ∧
        Path (fun _ => True) next moment.toWorld ∧ past.library.shadows.length ≤ id.index ∧
        next.library.shadows[id.index]? = some shadow ∧ past.library.HasTable shadow.base ∧
        shadow.Mirrors past.library shadow.base shadow.host) ∧
      moment.library.keys (.shadow id) = shadow.keys ∧
      ∀ later : Moment, Meanwhile .free [] moment later →
        later.library.shadows[id.index]? = some shadow ∧
        ∀ operation : Operation, operation.AssignsShadow id → later.Rejects operation := by
  constructor
  · intro base host known
    have mirrors := Shadow.mirrors_build moment.library base host
    exact ⟨_, rfl, mirrors⟩
  · constructor
    · intro id table found
      exact Library.keys_reader found (reachable.complete id)
    · intro id shadow found
      obtain ⟨past, next, reached, builds, since, beyond, made, known, built⟩ :=
        reachable.begun_free.building found
      have mirrors := Shadow.mirrors_build past.library shadow.base shadow.host
      rw [← built] at mirrors
      refine ⟨⟨past, next, reached, builds, since, beyond, made, known, mirrors⟩,
        Library.keys_shadow found, ?_⟩
      intro later meanwhile
      have added := (meanwhile.rewritten reachable).accumulates.shadows
      constructor
      · exact shadow_of_added added found
      · intro operation assigns
        exact later.rejects assigns

/-- The logging is on and goes off again. The shadow of a reader that relocates sections
keeps its one key. -/
theorem shadow_construction_traced :
    Moment.traced.library.keys (.reader { index := 0 }) = ["relocate"] ∧
    ∃ shadow : Shadow,
      Moment.traced.library.shadows[0]? = some shadow ∧ shadow.keys = ["relocate"] ∧
      (Moment.traced.start (.setDebug false)).library.shadows[0]? = some shadow ∧
      (Moment.traced.start (.setDebug false)).Rejects
        (.assignSlot (.shadow { index := 0 }) .relocate none) := by
  have traced : Reachable .free Moment.traced := reachable_traced fun _ _ _ => trivial
  have built := traced.shadow_construction.2.2 { index := 0 } _ rfl
  have silenced : Meanwhile .free [] Moment.traced (Moment.traced.start (.setDebug false)) :=
    .start (.setDebug false) .refl trivial (Rules.only_started trivial)
  have kept := built.2.2 _ silenced
  exact ⟨rfl, _, rfl, rfl, kept.1, kept.2 _ (Or.inl rfl)⟩

end ReaderTrace
