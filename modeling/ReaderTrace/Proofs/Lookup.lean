import ReaderTrace.Proofs.Agreement
import ReaderTrace.SymbolFile

/-!
What calls find in the active tables of two libraries that agree.

Where the active table of the one is a shadow, its functions stand for those of
the base table, which is the active table of the other. A call of either reaches
the same function of the client, with the base table as its receiver.
-/

namespace ReaderTrace

/-- Calling `function` as a method of `receiver` calls the client's function
`id` as a method of `received`. -/
def Stands (function : TableFunction) (receiver : Receiver) (id : FunctionId)
    (received : Receiver) : Prop :=
  (function = .client id ∧ receiver = received) ∨
    ∃ how, function = .forward how (.client id) ∧ how.receiver = received

namespace Library

theorem method?_some (library : Library) (table : TableRef) (slot : Slot) :
    library.method? table (some slot) =
      (library.function? table slot).map fun function => (.table table, function) :=
  rfl

theorem method?_none (library : Library) (table : TableRef) :
    library.method? table none =
      (library.probes? table).map fun found => (.probes found.1, found.2) :=
  rfl

/-- Two tables in which the same methods are found show the same names. -/
theorem presentNames_congr {library other : Library} {table base : TableRef}
    (same : ∀ method, (library.method? table method).isSome = (other.method? base method).isSome) :
    library.presentNames table = other.presentNames base := by
  have functionsEq : ∀ slot,
      (library.function? table slot).isSome = (other.function? base slot).isSome := by
    intro slot
    simpa [method?_some] using same (some slot)
  have probesEq : (library.probes? table).isSome = (other.probes? base).isSome := by
    simpa [method?_none] using same none
  unfold presentNames
  rw [funext functionsEq, probesEq]

/-- A reader's table holds functions of clients only. -/
theorem method?_reader {library : Library} {id : ReaderTableId} {method : Option Slot}
    {found : Receiver × TableFunction}
    (looked : library.method? (.reader id) method = some found) :
    ∃ client, found.2 = .client client := by
  cases method with
  | some slot =>
    obtain ⟨function, functionEq, foundEq⟩ := Option.map_eq_some_iff.mp looked
    change (library.readerTables[id.index]?).bind _ = some function at functionEq
    obtain ⟨table, _, read⟩ := Option.bind_eq_some_iff.mp functionEq
    obtain ⟨client, _, clientEq⟩ := Option.map_eq_some_iff.mp read
    exact ⟨client, by rw [← foundEq, ← clientEq]⟩
  | none =>
    obtain ⟨probes, probesEq, foundEq⟩ := Option.map_eq_some_iff.mp looked
    change (library.readerTables[id.index]?).bind _ = some probes at probesEq
    obtain ⟨table, _, read⟩ := Option.bind_eq_some_iff.mp probesEq
    obtain ⟨owner, _, ownerEq⟩ := Option.bind_eq_some_iff.mp read
    obtain ⟨client, _, clientEq⟩ := Option.map_eq_some_iff.mp ownerEq
    exact ⟨client, by rw [← foundEq, ← clientEq]⟩

/-- What a shadow built for `host` keeps of the function that a method finds in
its base table on `receiver`. -/
def forwarding (library : Library) (host : ObjectFileId) (method : Option Slot)
    (receiver : Receiver) : Forwarding :=
  { label := method.elim .probes fun _ => .symbols
    name := method.elim probesName Slot.name
    receiver := receiver
    host := host
    hostName := library.debugName host }

theorem method?_shadow_of_missing {library : Library} {id : ShadowId}
    (missing : library.shadows[id.index]? = none) (method : Option Slot) :
    library.method? (.shadow id) method = none := by
  cases method with
  | some slot =>
    change ((library.shadows[id.index]?).bind _).map _ = none
    rw [missing]
    rfl
  | none =>
    change ((library.shadows[id.index]?).bind _).map _ = none
    rw [missing]
    rfl

/-- A method finds in a shadow what it found in the base table when the shadow
was built, behind a forwarding function. -/
theorem method?_shadow {library past : Library} {id : ShadowId} {base : TableRef}
    {host : ObjectFileId}
    (built : library.shadows[id.index]? = some (Shadow.build past base host))
    (method : Option Slot) :
    library.method? (.shadow id) method =
      (past.method? base method).map fun found =>
        (method.elim (.probes (.shadow id)) fun _ => .table (.shadow id),
          .forward (past.forwarding host method found.1) found.2) := by
  cases method with
  | some slot =>
    change ((library.shadows[id.index]?).bind _).map _ = _
    rw [built, method?_some, Option.map_map]
    exact Option.map_map ..
  | none =>
    change ((library.shadows[id.index]?).bind _).map _ = _
    rw [built, method?_none, Option.map_map]
    change ((((past.probes? base).map _).map _).map _) = _
    rw [Option.map_map, Option.map_map]
    rfl

end Library

namespace Agree

variable {traced plain : Library}

theorem method? (agree : Agree traced plain) {file : ObjectFileId} {table base : TableRef}
    (tracedEq : traced.tableOf? file = some table) (plainEq : plain.tableOf? file = some base)
    (method : Option Slot) :
    (traced.method? table method = none ∧ plain.method? base method = none) ∨
      ∃ receiver function received id, traced.method? table method = some (receiver, function) ∧
        plain.method? base method = some (received, .client id) ∧
        Stands function receiver id received := by
  have isReaders := agree.real file base plainEq
  have sameTable := agree.sameTable isReaders
  have methodEq : plain.method? base method = traced.method? base method := by
    cases method with
    | some slot => exact congrArg (Option.map _) (sameTable.functions slot)
    | none => exact congrArg (Option.map _) sameTable.probes
  rw [methodEq]
  cases agree.active file with
  | none noTable _ =>
    rw [noTable] at tracedEq
    cases tracedEq
  | same active activeEq baseEq _ =>
    cases activeEq.symm.trans tracedEq
    cases baseEq.symm.trans plainEq
    cases found : traced.method? table method with
    | none => exact Or.inl ⟨rfl, rfl⟩
    | some pair =>
      obtain ⟨reader, rfl, _⟩ := isReaders
      obtain ⟨id, functionEq⟩ := Library.method?_reader found
      refine Or.inr ⟨pair.1, pair.2, pair.1, id, rfl, ?_, Or.inl ⟨functionEq, rfl⟩⟩
      rw [← functionEq]
  | shadowed shadow active activeEq baseEq _ built =>
    cases activeEq.symm.trans tracedEq
    cases baseEq.symm.trans plainEq
    rw [Library.method?_shadow built]
    cases found : traced.method? base method with
    | none => exact Or.inl ⟨rfl, rfl⟩
    | some pair =>
      obtain ⟨reader, rfl, _⟩ := isReaders
      obtain ⟨id, functionEq⟩ := Library.method?_reader found
      refine Or.inr ⟨_, _, pair.1, id, rfl, ?_, Or.inr ⟨_, by rw [functionEq], rfl⟩⟩
      rw [← functionEq]

theorem function? (agree : Agree traced plain) {file : ObjectFileId} {table base : TableRef}
    (tracedEq : traced.tableOf? file = some table) (plainEq : plain.tableOf? file = some base)
    (slot : Slot) :
    (traced.function? table slot = none ∧ plain.function? base slot = none) ∨
      ∃ function id, traced.function? table slot = some function ∧
        plain.function? base slot = some (.client id) ∧
        Stands function (.table table) id (.table base) := by
  rcases agree.method? tracedEq plainEq (some slot) with ⟨noTraced, noPlain⟩ | found
  · exact Or.inl ⟨Option.map_eq_none_iff.mp noTraced, Option.map_eq_none_iff.mp noPlain⟩
  · obtain ⟨receiver, function, received, id, tracedFound, plainFound, stands⟩ := found
    obtain ⟨first, firstEq, firstPair⟩ := Option.map_eq_some_iff.mp tracedFound
    obtain ⟨second, secondEq, secondPair⟩ := Option.map_eq_some_iff.mp plainFound
    cases firstPair
    cases secondPair
    exact Or.inr ⟨_, id, firstEq, secondEq, stands⟩

theorem probes? (agree : Agree traced plain) {file : ObjectFileId} {table base : TableRef}
    (tracedEq : traced.tableOf? file = some table) (plainEq : plain.tableOf? file = some base) :
    (traced.probes? table = none ∧ plain.probes? base = none) ∨
      ∃ owner function baseOwner id, traced.probes? table = some (owner, function) ∧
        plain.probes? base = some (baseOwner, .client id) ∧
        Stands function (.probes owner) id (.probes baseOwner) := by
  rcases agree.method? tracedEq plainEq none with ⟨noTraced, noPlain⟩ | found
  · exact Or.inl ⟨Option.map_eq_none_iff.mp noTraced, Option.map_eq_none_iff.mp noPlain⟩
  · obtain ⟨receiver, function, received, id, tracedFound, plainFound, stands⟩ := found
    obtain ⟨first, firstEq, firstPair⟩ := Option.map_eq_some_iff.mp tracedFound
    obtain ⟨second, secondEq, secondPair⟩ := Option.map_eq_some_iff.mp plainFound
    obtain ⟨owner, client⟩ := first
    obtain ⟨baseOwner, baseClient⟩ := second
    cases firstPair
    cases secondPair
    exact Or.inr ⟨owner, client, baseOwner, id, firstEq, secondEq, stands⟩

theorem presentNames (agree : Agree traced plain) {file : ObjectFileId} {table base : TableRef}
    (tracedEq : traced.tableOf? file = some table) (plainEq : plain.tableOf? file = some base) :
    traced.presentNames table = plain.presentNames base := by
  apply Library.presentNames_congr
  intro method
  rcases agree.method? tracedEq plainEq method with ⟨noTraced, noPlain⟩ | found
  · rw [noTraced, noPlain]
  · obtain ⟨receiver, function, received, id, tracedFound, plainFound, _⟩ := found
    rw [tracedFound, plainFound]
    rfl

end Agree

end ReaderTrace
