import ReaderTrace.Proofs.Lookup

/-!
The tables of runs in which clients hand in readers' tables only.

Where clients leave the logging to the debug setting and set no shadow, the
active table of an object file is a reader's own or one shadow of a reader's.
The shadow was built for that file, under the name that the file still has.
-/

namespace ReaderTrace

def TableRef.Real (table : TableRef) : Prop :=
  ∃ id, table = .reader id

/-- An operation that neither installs or removes logging nor sets a shadow. -/
def Operation.Genuine (operation : Operation) : Prop :=
  operation.Gated ∧ ∀ table, operation.handedTable? = some table → table.Real

/-- Clients leave the logging to the debug setting and set readers' tables. -/
def Rules.genuine : Rules :=
  Rules.only Operation.Genuine

/-! ### The invariant -/

/-- The entry `data` of `file` names its active table, the shadow of a reader's
table. -/
structure Stamped (library : Library) (file : ObjectFileId) (data : DebugData) : Prop where
  active : library.tableOf? file = some data.shadow
  base : data.base.Real
  built : ∃ id past, data.shadow = .shadow id ∧
    library.shadows[id.index]? = some (Shadow.build past data.base file) ∧
    past.debugName file = library.debugName file

structure Rooted (library : Library) : Prop where
  plain : ∀ file table, library.debugDataOf? file = none → library.tableOf? file = some table →
    table.Real
  stamped : ∀ file data, library.debugDataOf? file = some data → Stamped library file data

section Library

variable {library after : Library} {file : ObjectFileId}

theorem Stamped.carry {data : DebugData} (stamped : Stamped library file data)
    (same : SameAt library after file) (nameEq : after.debugName file = library.debugName file)
    (shadows : library.shadows <+: after.shadows) : Stamped after file data := by
  obtain ⟨id, past, shadowEq, found, pastName⟩ := stamped.built
  refine ⟨same.table.trans stamped.active, stamped.base, id, past, shadowEq, ?_, ?_⟩
  · exact shadow_of_added shadows found
  · exact pastName.trans nameEq.symm

namespace Rooted

theorem initial : Rooted .initial where
  plain := by intro file table _ active; cases active
  stamped := by intro file data entry; cases entry

/-- A change of `file` alone, once it is settled what becomes of that file. -/
private theorem of_others (rooted : Rooted library)
    (others : ∀ other, other ≠ file → SameAt library after other)
    (names : ∀ other, (library.tableOf? other).isSome = true →
      after.debugName other = library.debugName other)
    (shadows : library.shadows <+: after.shadows)
    (plain : ∀ table, after.debugDataOf? file = none → after.tableOf? file = some table →
      table.Real)
    (stamped : ∀ data, after.debugDataOf? file = some data → Stamped after file data) :
    Rooted after := by
  constructor
  · intro other table clean active
    by_cases same : other = file
    · subst other
      exact plain table clean active
    · rw [(others other same).entry] at clean
      rw [(others other same).table] at active
      exact rooted.plain other table clean active
  · intro other data entry
    by_cases same : other = file
    · subst other
      exact stamped data entry
    · rw [(others other same).entry] at entry
      have before := rooted.stamped other data entry
      exact before.carry (others other same) (names other (by rw [before.active]; rfl)) shadows

theorem congr (rooted : Rooted library) (same : ∀ file, SameAt library after file)
    (names : ∀ file, (library.tableOf? file).isSome = true →
      after.debugName file = library.debugName file)
    (shadows : library.shadows <+: after.shadows) : Rooted after := by
  constructor
  · intro file table clean active
    rw [(same file).entry] at clean
    rw [(same file).table] at active
    exact rooted.plain file table clean active
  · intro file data entry
    rw [(same file).entry] at entry
    have before := rooted.stamped file data entry
    exact before.carry (same file) (names file (by rw [before.active]; rfl)) shadows

/-! ### Logging -/

theorem logged (rooted : Rooted library) {base : TableRef} (real : base.Real)
    (attached : library.isAttached file = true) : Rooted (library.logged file base) := by
  have nameEq := Library.debugName_of_bare (library.bare_logged file base)
  have entry := library.debugDataOf?_logged file file base
  rw [if_pos rfl] at entry
  refine rooted.of_others (fun other different => SameAt.logged base different)
    (fun other _ => nameEq other) (List.prefix_append _ _) ?_ ?_
  · intro table clean
    rw [entry] at clean
    cases clean
  · intro data found
    rw [entry] at found
    cases found
    exact ⟨library.tableOf?_logged_self base attached, real, _, library, rfl,
      List.getElem?_concat_length, (nameEq file).symm⟩

theorem unlogged (rooted : Rooted library) {table : TableRef} (real : table.Real)
    (attached : library.isAttached file = true) : Rooted (library.unlogged file table) := by
  have nameEq := Library.debugName_of_bare (library.bare_unlogged file table)
  have active := library.tableOf?_unlogged_self table attached
  have clean := library.debugDataOf?_unlogged file file table
  rw [if_pos rfl] at clean
  refine rooted.of_others (fun other different => SameAt.unlogged table different)
    (fun other _ => nameEq other) List.prefix_rfl ?_ ?_
  · intro other _ found
    rw [active] at found
    cases found
    exact real
  · intro data entry
    rw [clean] at entry
    cases entry

theorem reset (rooted : Rooted library) {table : TableRef} (real : table.Real)
    (attached : library.isAttached file = true) :
    Rooted (Logging.reset library file table) := by
  have cleared := rooted.unlogged real attached
  unfold Logging.reset
  split
  · refine cleared.logged real ?_
    rw [Library.isAttached_unlogged]
    exact attached
  · exact cleared

theorem release (rooted : Rooted library) (file : ObjectFileId) :
    Rooted ((Logging.release file).apply library).2 := by
  rcases Logging.release_cases library file with same | ⟨data, entry, attached, applied⟩
  · rw [same]
    exact rooted
  · rw [applied]
    exact rooted.unlogged (rooted.stamped file data entry).base attached

theorem reconciled (rooted : Rooted library) (value : Bool)
    (attached : library.isAttached file = true) :
    Rooted (Logging.reconciled value library file) := by
  unfold Logging.reconciled
  split
  · next base active clean =>
    cases value with
    | false => exact rooted
    | true => exact rooted.logged (rooted.plain file base clean active) attached
  · next base data active entry =>
    cases value with
    | false => exact rooted.unlogged (rooted.stamped file data entry).base attached
    | true => exact rooted
  · exact rooted

theorem walked (rooted : Rooted library) (value : Bool) (files : List ObjectFileId)
    (attached : ∀ file ∈ files, library.isAttached file = true) :
    Rooted (Logging.walked value library files) := by
  induction files generalizing library with
  | nil => exact rooted
  | cons head rest ih =>
    refine ih (rooted.reconciled value (attached head (List.mem_cons_self ..))) ?_
    intro file member
    rw [Logging.isAttached_reconciled]
    exact attached file (List.mem_cons_of_mem _ member)

end Rooted

end Library

/-! ### Every run -/

variable {license : Operation → Prop} {world after : World}

theorem Aside.debugName (aside : Aside license world after) (file : ObjectFileId) :
    after.library.debugName file = world.library.debugName file := by
  cases aside with
  | symbolsRead other value =>
    have names : ∀ file,
        ((Edit.setPartialSymbolsRead other value).apply world.library).2.debugName file =
          world.library.debugName file := world.library.debugName_of_kept fun _ => rfl
    exact names file
  | slotAssigned table slot function => cases table <;> rfl
  | probeTableAssigned table probes => cases table <;> rfl
  | probesAssigned table function =>
    unfold World.after Edit.assignProbes
    simp only [Edit.apply_bind, Edit.apply_get]
    split <;> rfl
  | noted | probeTableMade | readerTableMade | quickFunctionsMade | tableReshaped | described
    | streamSet | rendered | eventCreated | subscribed => rfl

/-- An object file keeps the name that records print for it. -/
theorem Move.debugName (move : Move license world after) (sound : Sound world.library)
    {file : ObjectFileId} (known : file.index < world.library.objectFiles.length) :
    after.library.debugName file = world.library.debugName file := by
  cases move with
  | aside aside => exact aside.debugName file
  | relogged relogging => exact Library.debugName_of_bare (relogging.bare sound) file
  | fileAdded space name quick opened =>
    change ((ProgramSpace.addObjectFile space name quick).apply world.library).2.debugName file = _
    rw [ProgramSpace.apply_addObjectFile, opened]
    unfold Library.debugName
    rw [← ProgramSpace.objectFile?_withFile_of_lt world.library space name quick known]
    rfl
  | fileStruck space struck member =>
    change ((ProgramSpace.strike space struck).apply world.library).2.debugName file = _
    rw [ProgramSpace.apply_strike]
    split <;> rfl
  | fileDetached other gone =>
    have names : ∀ file, ((Edit.detach other).apply world.library).2.debugName file =
        world.library.debugName file := world.library.debugName_of_kept fun _ => rfl
    exact names file
  | spaceCreated | spaceClosed | spaceForgotten => rfl

theorem Path.debugName (path : Path license world after) (sound : Sound world.library)
    {file : ObjectFileId} (known : file.index < world.library.objectFiles.length) :
    after.library.debugName file = world.library.debugName file := by
  induction path with
  | refl => rfl
  | tail earlier move ih =>
    have knownThere := Nat.lt_of_lt_of_le known (Path.rewritten earlier).dwindles.files
    exact (move.debugName (Path.sound earlier sound) knownThere).trans ih

/-- Every shadow was built for an object file that still has the name it had. -/
theorem Begun.named (begun : Begun license world) {index : Nat} {shadow : Shadow}
    (found : world.library.shadows[index]? = some shadow) :
    ∃ past, Begun license past ∧ Path license past world ∧ past.library.HasTable shadow.base ∧
      shadow = Shadow.build past.library shadow.base shadow.host ∧
      past.library.debugName shadow.host = world.library.debugName shadow.host := by
  obtain ⟨past, next, reached, builds, since, beyond, made, known, built⟩ := begun.building found
  have sound := Begun.sound reached
  have hostKnown : shadow.host.index < past.library.objectFiles.length := by
    rcases builds.shadows_or_relogged with same | relogging
    · rw [same, List.getElem?_eq_none beyond] at made
      cases made
    · rcases relogging.host_known sound made with old | known
      · rw [List.getElem?_eq_none beyond] at old
        cases old
      · exact known
  have path : Path license past world := since.head builds
  exact ⟨past, reached, path, known, built, (Path.debugName path sound hostKnown).symm⟩

/-- What is found in a reader's table is a client's own function, and what is found in a
shadow forwards its calls, with the present name of the shadow's host. -/
theorem Begun.own_or_forwards (begun : Begun license world) {table : TableRef}
    {method : Option Slot} {receiver : Receiver} {function : TableFunction}
    (looked : world.library.method? table method = some (receiver, function)) :
    (table.Real ∧ ∃ client, function = .client client) ∨
      (¬table.Real ∧ ∃ host inner target,
        function = .forward (world.library.forwarding host method inner) target) := by
  cases table with
  | reader id =>
    obtain ⟨client, functionEq⟩ := Library.method?_reader looked
    exact Or.inl ⟨⟨id, rfl⟩, client, functionEq⟩
  | shadow id =>
    have shadowed : ¬(TableRef.shadow id).Real := nofun
    cases found : world.library.shadows[id.index]? with
    | none =>
      rw [Library.method?_shadow_of_missing found] at looked
      cases looked
    | some shadow =>
      obtain ⟨past, _, _, _, built, nameEq⟩ := Begun.named begun found
      rw [built] at found
      rw [Library.method?_shadow found] at looked
      obtain ⟨inner, _, pairEq⟩ := Option.map_eq_some_iff.mp looked
      have functionEq : function =
          .forward (past.library.forwarding shadow.host method inner.1) inner.2 :=
        (Prod.ext_iff.mp pairEq).2.symm
      refine Or.inr ⟨shadowed, shadow.host, inner.1, inner.2, ?_⟩
      rw [functionEq]
      unfold Library.forwarding
      rw [nameEq]

theorem Relogging.rooted (genuine : ∀ operation, license operation → operation.Genuine)
    (relogging : Relogging license world after) (sound : Sound world.library)
    (rooted : Rooted world.library) : Rooted after.library := by
  cases relogging with
  | released file gone => exact rooted.release file
  | installed file licensed => exact absurd (genuine _ licensed).1 not_false
  | uninstalled file licensed => exact absurd (genuine _ licensed).1 not_false
  | tableSet file table licensed known accepted =>
    obtain ⟨operation, permitted, handed⟩ := licensed
    obtain ⟨attached, afterEq⟩ := sound.layer.setTable_accepted accepted
    change Rooted ((Logging.setTable file table).apply world.library).2
    rw [afterEq]
    exact rooted.reset ((genuine operation permitted).2 table handed) attached
  | debugSet value =>
    change Rooted ((Logging.setDebug value).apply world.library).2
    rw [sound.apply_setDebug]
    have flipped : Rooted { world.library with debug := value } :=
      rooted.congr (fun _ => ⟨rfl, rfl⟩) (fun _ _ => rfl) List.prefix_rfl
    exact flipped.walked value world.library.live fun _ member =>
      sound.isAttached_of_mem_live member

theorem Move.rooted (genuine : ∀ operation, license operation → operation.Genuine)
    (move : Move license world after) (sound : Sound world.library)
    (rooted : Rooted world.library) : Rooted after.library := by
  rcases move.quiet_or_relogged with quiet | relogging
  · rcases move.shadows_or_relogged with shadows | relogging
    · refine rooted.congr quiet.same ?_ ⟨[], (List.append_nil _).trans shadows.symm⟩
      intro file active
      exact move.debugName sound (world.library.lt_of_isSome_tableOf? active)
    · exact relogging.rooted genuine sound rooted
  · exact relogging.rooted genuine sound rooted

theorem Begun.rooted (genuine : ∀ operation, license operation → operation.Genuine)
    (begun : Begun license world) : Rooted world.library := by
  induction begun with
  | refl => exact Rooted.initial
  | tail earlier move ih => exact move.rooted genuine (Begun.sound earlier) ih

/-! ### What calls find in an active table -/

/-- A method finds a client's function in the active table of a file, and behind
a forwarding function that prints the file's name while the file is logged. -/
theorem Rooted.method? {library : Library} (rooted : Rooted library) {file : ObjectFileId}
    {table : TableRef} {method : Option Slot} {receiver : Receiver} {function : TableFunction}
    (active : library.tableOf? file = some table)
    (looked : library.method? table method = some (receiver, function)) :
    ∃ client, library.debugDataOf? file = none ∧ function = .client client ∨
      (library.debugDataOf? file).isSome = true ∧
        ∃ received,
          function = .forward (library.forwarding file method received) (.client client) := by
  cases entry : library.debugDataOf? file with
  | none =>
    obtain ⟨id, rfl⟩ := rooted.plain file table entry active
    obtain ⟨client, functionEq⟩ := Library.method?_reader looked
    exact ⟨client, Or.inl ⟨rfl, functionEq⟩⟩
  | some data =>
    have stamped := rooted.stamped file data entry
    obtain ⟨base, baseEq⟩ := stamped.base
    obtain ⟨id, past, shadowEq, built, nameEq⟩ := stamped.built
    have tableEq : table = .shadow id :=
      Option.some.inj ((active.symm.trans stamped.active).trans (congrArg some shadowEq))
    rw [tableEq, Library.method?_shadow built, baseEq] at looked
    obtain ⟨found, foundEq, pairEq⟩ := Option.map_eq_some_iff.mp looked
    obtain ⟨client, clientEq⟩ := Library.method?_reader foundEq
    refine ⟨client, Or.inr ⟨rfl, found.1, ?_⟩⟩
    have forwardingEq : past.forwarding file method found.1 =
        library.forwarding file method found.1 := by
      unfold Library.forwarding
      rw [nameEq]
    rw [← forwardingEq, ← clientEq]
    exact (Prod.ext_iff.mp pairEq).2.symm

end ReaderTrace
