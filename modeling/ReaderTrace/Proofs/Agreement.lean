import ReaderTrace.Proofs.BaseTable

/-!
A library with logging against one without.

The two agree when they differ in nothing but the logging: the one without has
the base tables for its active tables, and every shadow of the one with logging
is what would be built for its base table now. The address tokens that were
given out do not count, since only records show them.
-/

namespace ReaderTrace

/-! ### What logging cannot be seen in -/

namespace Library

/-- The library without its logging and without its address tokens. -/
def muted (library : Library) : Library :=
  { library.bare with addresses := .empty }

@[simp] theorem debugName_muted (library : Library) (file : ObjectFileId) :
    library.muted.debugName file = library.debugName file :=
  library.debugName_bare file

@[simp] theorem owned_muted (library : Library) (space : SpaceId) :
    library.muted.owned space = library.owned space :=
  rfl

@[simp] theorem isDisposed_muted (library : Library) (space : SpaceId) :
    library.muted.isDisposed space = library.isDisposed space :=
  rfl

/-- Every probe table that a reader's table has exists. -/
def ProbesKnown (library : Library) : Prop :=
  ∀ table ∈ library.readerTables, ∀ probes, table.probes.read = some probes →
    probes.index < library.probeTables.length

namespace ProbesKnown

variable {library : Library}

theorem newProbeTable (known : library.ProbesKnown) (function : FunctionId) :
    ((Edit.newProbeTable function).apply library).2.ProbesKnown := by
  intro table member probes found
  have bound := known table member probes found
  change probes.index < (library.probeTables ++ [_]).length
  rw [List.length_append]
  exact Nat.lt_add_right _ bound

theorem newReaderTable (known : library.ProbesKnown) {table : ReaderTable}
    (bound : ∀ probes, table.probes.read = some probes →
      probes.index < library.probeTables.length) :
    ((Edit.newReaderTable table).apply library).2.ProbesKnown := by
  intro other member
  change other ∈ library.readerTables ++ [table] at member
  rcases List.mem_append.mp member with earlier | new
  · exact known other earlier
  · rw [List.mem_singleton.mp new]
    exact bound

end ProbesKnown

/-- A table that a reader made, as opposed to a shadow. -/
def IsReaders (library : Library) (table : TableRef) : Prop :=
  ∃ id, table = .reader id ∧ id.index < library.readerTables.length

end Library

namespace SameTable

variable {library after : Library} {table : TableRef}

theorem of_appended (isReaders : library.IsReaders table) (known : library.ProbesKnown)
    (readers : library.readerTables <+: after.readerTables)
    (probeTables : library.probeTables <+: after.probeTables) :
    SameTable library after table := by
  obtain ⟨id, rfl, bound⟩ := isReaders
  obtain ⟨addedReaders, readersEq⟩ := readers
  obtain ⟨addedProbes, probesEq⟩ := probeTables
  have tableEq : after.readerTables[id.index]? = library.readerTables[id.index]? := by
    rw [← readersEq, List.getElem?_append_left bound]
  constructor
  · intro slot
    change (after.readerTables[id.index]?).bind _ = (library.readerTables[id.index]?).bind _
    rw [tableEq]
  · change (after.readerTables[id.index]?).bind _ = (library.readerTables[id.index]?).bind _
    rw [tableEq]
    have found := List.getElem?_eq_getElem bound
    simp only [found, Option.bind_some]
    cases read : (library.readerTables[id.index]).probes.read with
    | none => rfl
    | some probes =>
      have probesBound := known _ (List.getElem_mem bound) probes read
      simp only [Option.bind_some]
      rw [← probesEq, List.getElem?_append_left probesBound]

end SameTable

/-! ### Agreement -/

structure Agree (traced plain : Library) : Prop where
  muted : plain.muted = traced.muted
  off : plain.debug = false
  clean : ∀ file, plain.debugDataOf? file = none
  tables : ∀ file, plain.tableOf? file = traced.baseOf? file
  real : ∀ file table, plain.tableOf? file = some table → traced.IsReaders table
  known : traced.ProbesKnown
  current : ∀ file data, traced.debugDataOf? file = some data →
    ∃ id, data.shadow = .shadow id ∧ traced.tableOf? file = some data.shadow ∧
      traced.shadows[id.index]? = some (Shadow.build traced data.base file)

namespace Agree

variable {traced plain : Library}

theorem initial : Agree .initial .initial where
  muted := rfl
  off := rfl
  clean := fun _ => rfl
  tables := fun _ => rfl
  real := by intro file table active; cases active
  known := by intro table member; cases member
  current := by intro file data entry; cases entry

section Reads

variable (agree : Agree traced plain)
include agree

theorem view {α : Type} (look : Library → α) : look plain.muted = look traced.muted :=
  congrArg look agree.muted

theorem spaces : plain.spaces = traced.spaces :=
  agree.view Library.spaces

theorem events : plain.events = traced.events :=
  agree.view Library.events

theorem readerTables : plain.readerTables = traced.readerTables :=
  agree.view Library.readerTables

theorem probeTables : plain.probeTables = traced.probeTables :=
  agree.view Library.probeTables

theorem quickFunctions : plain.quickFunctions = traced.quickFunctions :=
  agree.view Library.quickFunctions

theorem contents : plain.contents = traced.contents :=
  agree.view Library.contents

theorem languageIn? (answer : Value) : plain.languageIn? answer = traced.languageIn? answer := by
  unfold Library.languageIn?
  rw [agree.contents]

theorem owned (space : SpaceId) : plain.owned space = traced.owned space := by
  unfold Library.owned Library.space?
  rw [agree.spaces]

theorem isDisposed (space : SpaceId) : plain.isDisposed space = traced.isDisposed space := by
  unfold Library.isDisposed Library.space?
  rw [agree.spaces]

theorem listeners (event : EventId) : plain.listeners event = traced.listeners event := by
  unfold Library.listeners
  rw [agree.events]

theorem objectFiles : plain.bare.objectFiles = traced.bare.objectFiles :=
  agree.view Library.objectFiles

theorem objectFile?_bare (file : ObjectFileId) :
    plain.bare.objectFile? file = traced.bare.objectFile? file := by
  unfold Library.objectFile?
  rw [agree.objectFiles]

theorem debugName (file : ObjectFileId) : plain.debugName file = traced.debugName file := by
  rw [← plain.debugName_bare, ← traced.debugName_bare]
  unfold Library.debugName
  rw [agree.objectFile?_bare]

theorem quickOf? (file : ObjectFileId) : plain.quickOf? file = traced.quickOf? file := by
  rw [← plain.quickOf?_bare, ← traced.quickOf?_bare]
  unfold Library.quickOf?
  rw [agree.objectFile?_bare]

theorem isAttached (file : ObjectFileId) : plain.isAttached file = traced.isAttached file := by
  rw [← plain.isAttached_bare, ← traced.isAttached_bare]
  unfold Library.isAttached
  rw [agree.objectFile?_bare]

theorem partialSymbolsRead (file : ObjectFileId) :
    plain.partialSymbolsRead file = traced.partialSymbolsRead file := by
  rw [← plain.partialSymbolsRead_bare, ← traced.partialSymbolsRead_bare]
  unfold Library.partialSymbolsRead
  rw [agree.objectFile?_bare]

theorem lists_iff (file : ObjectFileId) : plain.Lists file ↔ traced.Lists file := by
  unfold Library.Lists
  exact exists_congr fun space => by rw [agree.owned]

theorem sameTable {table : TableRef} (isReaders : traced.IsReaders table) :
    SameTable traced plain table :=
  .of_appended isReaders agree.known ⟨[], (List.append_nil _).trans agree.readerTables.symm⟩
    ⟨[], (List.append_nil _).trans agree.probeTables.symm⟩

theorem hasTable {table : TableRef} (isReaders : traced.IsReaders table) :
    plain.HasTable table := by
  obtain ⟨id, rfl, bound⟩ := isReaders
  change id.index < plain.readerTables.length
  rw [agree.readerTables]
  exact bound

theorem isReaders_base {file : ObjectFileId} {data : DebugData}
    (entry : traced.debugDataOf? file = some data) : traced.IsReaders data.base := by
  refine agree.real file data.base ?_
  rw [agree.tables, traced.baseOf?_of_entry entry]

theorem isInstalled (file : ObjectFileId) : plain.isInstalled file = false :=
  plain.isInstalled_of_no_entry (agree.clean file)

end Reads

theorem addressed (agree : Agree traced plain) (book other : AddressBook) :
    Agree { traced with addresses := book } { plain with addresses := other } :=
  ⟨agree.muted, agree.off, agree.clean, agree.tables, agree.real, agree.known, agree.current⟩

/-! ### The active tables -/

/-- How the active tables of one object file compare: they are the same, or the
one is a shadow that was built for the other. -/
inductive Active (traced plain : Library) (file : ObjectFileId) : Prop
  | none (tracedEq : traced.tableOf? file = none) (plainEq : plain.tableOf? file = none)
  | same (table : TableRef) (tracedEq : traced.tableOf? file = some table)
      (plainEq : plain.tableOf? file = some table) (isReaders : traced.IsReaders table)
  | shadowed (id : ShadowId) (base : TableRef)
      (tracedEq : traced.tableOf? file = some (.shadow id))
      (plainEq : plain.tableOf? file = some base) (isReaders : traced.IsReaders base)
      (built : traced.shadows[id.index]? = some (Shadow.build traced base file))

theorem active (agree : Agree traced plain) (file : ObjectFileId) : Active traced plain file := by
  have tables := agree.tables file
  cases entry : traced.debugDataOf? file with
  | none =>
    rw [traced.baseOf?_of_no_entry entry] at tables
    cases tracedEq : traced.tableOf? file with
    | none => exact .none tracedEq (tables.trans tracedEq)
    | some table =>
      have plainEq := tables.trans tracedEq
      exact .same table tracedEq plainEq (agree.real file table plainEq)
  | some data =>
    rw [traced.baseOf?_of_entry entry] at tables
    obtain ⟨id, shadowEq, tracedEq, built⟩ := agree.current file data entry
    rw [shadowEq] at tracedEq
    exact .shadowed id data.base tracedEq tables (agree.real file data.base tables) built

theorem active_cases (agree : Agree traced plain) (file : ObjectFileId) :
    (traced.tableOf? file = none ∧ plain.tableOf? file = none) ∨
      ∃ table base, traced.tableOf? file = some table ∧ plain.tableOf? file = some base := by
  cases agree.active file with
  | none tracedEq plainEq => exact Or.inl ⟨tracedEq, plainEq⟩
  | same table tracedEq plainEq _ => exact Or.inr ⟨table, table, tracedEq, plainEq⟩
  | shadowed id base tracedEq plainEq _ _ => exact Or.inr ⟨_, base, tracedEq, plainEq⟩

end Agree

end ReaderTrace
