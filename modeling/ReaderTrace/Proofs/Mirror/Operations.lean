import ReaderTrace.Proofs.Mirror.Calls

/-!
The traced and the plain routine of each operation, coupled.

Each routine that operations are made of runs in step with itself from
libraries that agree. Only the operations that change the debug setting are
left to the traced side.
-/

namespace ReaderTrace

open Routine Coupled

variable {now : World} {plain : Library}

/-- Two routines that make the same calls and end alike. -/
abbrev Mirrored {α : Type} (left : Routine α) (now : World) (right : Routine α)
    (plain : Library) : Prop :=
  Coupled (fun request => request) Alike left now right plain

/-! ### Events -/

section Events

theorem mirrored_listeners {listeners : List Listener} (data : Value)
    (clients : Listener.release ∉ listeners) (agree : Agree now.library plain) :
    Mirrored (listeners.forM (Event.notify data)) now (listeners.forM (Event.notify data))
      plain := by
  induction listeners generalizing now plain with
  | nil => exact pure_alike () agree
  | cons listener rest ih =>
    have restClients : Listener.release ∉ rest := fun member =>
      clients (List.mem_cons_of_mem _ member)
    cases listener with
    | release => exact absurd (List.mem_cons_self ..) clients
    | client function =>
      have notified : Mirrored (Event.notify data (.client function)) now
          (Event.notify data (.client function)) plain :=
        coupled_discard (coupled_ask agree not_false rfl)
      exact coupled_andThen notified fun _ _ _ agreed => ih restClients agreed

theorem mirrored_post {event : EventId} (data : Value) (attentive : now.library.Attentive)
    (own : event ≠ destroyedEvent) (agree : Agree now.library plain) :
    Mirrored (Event.post event data) now (Event.post event data) plain := by
  refine Coupled.library ?_
  rw [agree.listeners]
  exact mirrored_listeners data (fun member => own (attentive.only event member)) agree

/-- The library itself is told of a destruction first, while the object file
can still be given its table back. -/
theorem mirrored_announce {file : ObjectFileId} (attentive : now.library.Attentive)
    (attached : now.library.isAttached file = true) (agree : Agree now.library plain) :
    Mirrored (Event.post destroyedEvent (.objectFile file)) now
      (Event.post destroyedEvent (.objectFile file)) plain := by
  obtain ⟨functions, listenersEq⟩ := attentive.first
  obtain ⟨released, untouched, agreed⟩ := agree.release attached
  refine Coupled.library ?_
  rw [agree.listeners, listenersEq]
  have told : Mirrored (Event.notify (.objectFile file) .release) now
      (Event.notify (.objectFile file) .release) plain := by
    change Mirrored (Routine.edit (Logging.release file)) now
      (Routine.edit (Logging.release file)) plain
    refine Coupled.edit ?_
    rw [untouched]
    exact ⟨released, agreed⟩
  have clients : Listener.release ∉ functions.map .client := by simp
  exact coupled_andThen told fun _ _ _ agreed => mirrored_listeners _ clients agreed

end Events

/-! ### Program spaces -/

section Spaces

theorem mirrored_addObjectFile (space : SpaceId) (name : String) (quick : Option QuickId)
    (agree : Agree now.library plain) :
    Mirrored (Routine.edit (ProgramSpace.addObjectFile space name quick)) now
      (Routine.edit (ProgramSpace.addObjectFile space name quick)) plain := by
  refine edit_unaware (unaware_addObjectFile space name quick) agree ?_
  unfold World.after
  rw [ProgramSpace.apply_addObjectFile]
  split <;> exact agree.known

theorem mirrored_destroyed {file : ObjectFileId} (attentive : now.library.Attentive)
    (attached : now.library.isAttached file = true) (agree : Agree now.library plain) :
    Mirrored
      (Event.post destroyedEvent (.objectFile file) >>= fun _ => Routine.edit (Edit.detach file))
      now
      (Event.post destroyedEvent (.objectFile file) >>= fun _ => Routine.edit (Edit.detach file))
      plain :=
  coupled_andThen (mirrored_announce attentive attached agree) fun _ _ _ told =>
    edit_unaware (unaware_detach file) told told.known

theorem mirrored_removeObjectFile (space : SpaceId) (file : ObjectFileId)
    (begun : Begun Operation.Gated now) (agree : Agree now.library plain) :
    Mirrored (ProgramSpace.removeObjectFile space file) now
      (ProgramSpace.removeObjectFile space file) plain := by
  have struckKnown :
      ((ProgramSpace.strike space file).apply now.library).2.ProbesKnown := by
    rw [ProgramSpace.apply_strike]
    split <;> exact agree.known
  obtain ⟨sameOutcome, agreed⟩ := agree.edit (unaware_strike space file) struckKnown
  refine Coupled.bind (Coupled.edit ?_)
  change Onward _ (fun _ => ProgramSpace.destroy file) (fun _ => ProgramSpace.destroy file) Alike
    ((ProgramSpace.strike space file).apply now.library).1
    ((ProgramSpace.strike space file).apply plain).1 (now.after (ProgramSpace.strike space file))
    ((ProgramSpace.strike space file).apply plain).2
  rw [← sameOutcome]
  by_cases member : file ∈ now.library.owned space
  · have begunWithout : Begun Operation.Gated (now.withoutFile space file) :=
      begun.tail (Move.withoutFile member)
    have attached : (now.withoutFile space file).library.isAttached file = true :=
      begun.sound.registered.attached space file member
    unfold World.after
    rw [ProgramSpace.apply_strike_of_mem member] at agreed ⊢
    exact .mark (mirrored_destroyed begunWithout.attentive attached agreed)
  · unfold World.after
    rw [ProgramSpace.apply_strike_of_notMem member] at agreed ⊢
    exact ⟨rfl, agreed⟩

theorem mirrored_removeAll (space : SpaceId) (count : Nat) (begun : Begun Operation.Gated now)
    (agree : Agree now.library plain) :
    Mirrored (ProgramSpace.removeAll space count) now (ProgramSpace.removeAll space count)
      plain := by
  induction count generalizing now plain with
  | zero => exact pure_alike () agree
  | succ count ih =>
    refine Coupled.library ?_
    rw [agree.owned]
    cases (now.library.owned space).getLast? with
    | none => exact pure_alike () agree
    | some file =>
      refine bind_alike (honours_removeObjectFile space file begun)
        (mirrored_removeObjectFile space file begun agree) ?_
      intro _ later replied reached agreed
      exact ih (begun.trans reached.path) agreed

theorem mirrored_dispose (space : SpaceId) (begun : Begun Operation.Gated now)
    (agree : Agree now.library plain) :
    Mirrored (ProgramSpace.dispose space) now (ProgramSpace.dispose space) plain := by
  refine Coupled.library ?_
  rw [agree.isDisposed, agree.owned]
  cases disposed : now.library.isDisposed space with
  | true => exact pure_alike () agree
  | false =>
    have marked : Course Operation.Gated now (now.after (ProgramSpace.markDisposed space)) :=
      Course.of_move (.spaceClosed space disposed) fun _ registered => registered
    refine bind_alike (honours_edit marked)
      (edit_unaware (unaware_markDisposed space) agree agree.known) ?_
    intro _ later replied reached agreed
    refine coupled_andThen (mirrored_removeAll space _ (begun.trans reached.path) agreed) ?_
    intro _ finish beside agreedLast
    exact edit_unaware (unaware_unregister space) agreedLast agreedLast.known

end Spaces

/-! ### Symbol files -/

section SymbolFiles

theorem mirrored_setTable {file : ObjectFileId} {table : TableRef}
    (isReaders : now.library.IsReaders table)
    (accepted : (Logging.setTable file table).apply now.library =
      (.ok (), Logging.reset now.library file table))
    (attached : now.library.isAttached file = true) (agree : Agree now.library plain) :
    Mirrored (SymbolFile.setTable file table) now (SymbolFile.setTable file table) plain := by
  obtain ⟨plainOk, agreed⟩ := agree.setTable isReaders accepted attached
  refine Coupled.bind (Coupled.edit ?_)
  change Onward _ (fun _ => Routine.reached (.tableSet file table))
    (fun _ => Routine.reached (.tableSet file table)) Alike
    ((Logging.setTable file table).apply now.library).1
    ((Logging.setTable file table).apply plain).1 (now.after (Logging.setTable file table))
    ((Logging.setTable file table).apply plain).2
  rw [plainOk]
  unfold World.after
  rw [accepted] at agreed ⊢
  exact .mark (.done ⟨rfl, agreed⟩)

theorem mirrored_callPresent (file : ObjectFileId) (slot : Slot) (arguments : List Value)
    (agree : Agree now.library plain) :
    Mirrored (SymbolFile.callPresent file slot arguments) now
      (SymbolFile.callPresent file slot arguments) plain := by
  refine coupled_activeTable agree fun table base tracedEq plainEq => Coupled.library ?_
  rcases agree.function? tracedEq plainEq slot with ⟨noTraced, noPlain⟩ | found
  · rw [noTraced, noPlain]
    exact pure_alike () agree
  · obtain ⟨function, id, tracedFound, plainFound, stands⟩ := found
    rw [tracedFound, plainFound]
    exact coupled_discard (coupled_method stands arguments agree)

theorem mirrored_load {file : ObjectFileId} {table : TableRef} (flags : Double)
    (isReaders : now.library.IsReaders table)
    (accepted : (Logging.setTable file table).apply now.library =
      (.ok (), Logging.reset now.library file table))
    (attached : now.library.isAttached file = true) (agree : Agree now.library plain) :
    Mirrored (SymbolFile.load file table flags) now (SymbolFile.load file table flags) plain := by
  refine coupled_andThen (mirrored_setTable isReaders accepted attached agree) ?_
  intro _ _ _ set
  refine coupled_andThen (mirrored_callPresent file _ _ set) fun _ _ _ began => ?_
  refine coupled_andThen (mirrored_callPresent file _ _ began) fun _ _ _ initialised => ?_
  split
  · exact pure_alike () initialised
  · refine coupled_andThen (mirrored_callPresent file _ _ initialised) fun _ _ _ read => ?_
    refine coupled_andThen
      (edit_unaware (unaware_setPartialSymbolsRead file true) read read.known) ?_
    intro _ _ _ flagged
    exact mirrored_callPresent file _ _ flagged

private theorem setTable_withFile {library : Library} (layer : Layer library) (space : SpaceId)
    (name : String) (quick : Option QuickId) (table : TableRef) :
    (Logging.setTable (ProgramSpace.nextFile library) table).apply
        (ProgramSpace.withFile library space name quick) =
      (.ok (), Logging.reset (ProgramSpace.withFile library space name quick)
        (ProgramSpace.nextFile library) table) := by
  have noTable : (ProgramSpace.withFile library space name quick).tableOf?
      (ProgramSpace.nextFile library) = none := by
    unfold Library.tableOf?
    rw [ProgramSpace.objectFile?_withFile_self]
    rfl
  have notInstalled : (ProgramSpace.withFile library space name quick).isInstalled
      (ProgramSpace.nextFile library) = false := by
    rw [Library.isInstalled_eq, noTable]
    rfl
  have attached := ProgramSpace.isAttached_withFile_self library space name quick
  rw [(layer.withFile space name quick).apply_setTable, notInstalled, attached]
  rfl

theorem mirrored_addSymbolFile {space : SpaceId} {name : String} {quick : Option QuickId}
    {table : TableRef} (flags : Double) (isReaders : now.library.IsReaders table)
    (begun : Begun Operation.Gated now) (agree : Agree now.library plain) :
    Mirrored (SymbolFile.add space name quick table flags) now
      (SymbolFile.add space name quick table flags) plain := by
  have knownAfter :
      ((ProgramSpace.addObjectFile space name quick).apply now.library).2.ProbesKnown := by
    rw [ProgramSpace.apply_addObjectFile]
    split <;> exact agree.known
  obtain ⟨sameOutcome, agreed⟩ := agree.edit (unaware_addObjectFile space name quick) knownAfter
  refine Coupled.bind (Coupled.edit ?_)
  change Onward _ (fun file => do SymbolFile.load file table flags; pure file)
    (fun file => do SymbolFile.load file table flags; pure file) Alike
    ((ProgramSpace.addObjectFile space name quick).apply now.library).1
    ((ProgramSpace.addObjectFile space name quick).apply plain).1
    (now.after (ProgramSpace.addObjectFile space name quick))
    ((ProgramSpace.addObjectFile space name quick).apply plain).2
  rw [← sameOutcome]
  unfold World.after
  cases disposed : now.library.isDisposed space with
  | true =>
    rw [ProgramSpace.apply_addObjectFile_of_disposed disposed] at agreed ⊢
    exact ⟨rfl, agreed⟩
  | false =>
    rw [ProgramSpace.apply_addObjectFile_of_open disposed] at agreed ⊢
    exact coupled_map (mirrored_load flags isReaders
      (setTable_withFile begun.sound.layer space name quick table)
      (ProgramSpace.isAttached_withFile_self now.library space name quick) agreed)

theorem mirrored_finish (space : SpaceId) (file : ObjectFileId)
    (begun : Begun Operation.Gated now) (agree : Agree now.library plain) :
    Mirrored (SymbolFile.finish space file) now (SymbolFile.finish space file) plain := by
  refine bind_alike (honours_callPresent file _ _ now) (mirrored_callPresent file _ _ agree) ?_
  intro _ later replied reached agreed
  exact mirrored_removeObjectFile space file (begun.trans reached.path) agreed

theorem mirrored_probes (file : ObjectFileId) (agree : Agree now.library plain) :
    Mirrored (SymbolFile.probes file) now (SymbolFile.probes file) plain := by
  refine coupled_activeTable agree fun table base tracedEq plainEq => Coupled.library ?_
  rcases agree.probes? tracedEq plainEq with ⟨noTraced, noPlain⟩ | found
  · rw [noTraced, noPlain]
    exact pure_alike none agree
  · obtain ⟨owner, function, baseOwner, id, tracedFound, plainFound, stands⟩ := found
    rw [tracedFound, plainFound]
    exact coupled_map (coupled_method stands _ agree)

/-- The reader's function is called on its own here, so that the receiver is the
one thing that logging changes. -/
theorem coupled_relocate (file : ObjectFileId) (sectionInfo buffer : Value)
    (agree : Agree now.library plain) :
    Coupled Call.unbound Alike (SymbolFile.relocate file sectionInfo buffer) now
      (SymbolFile.relocate file sectionInfo buffer) plain := by
  refine coupled_activeTable agree fun table base tracedEq plainEq => Coupled.library ?_
  rcases agree.function? tracedEq plainEq .relocate with ⟨noTraced, noPlain⟩ | found
  · rw [noTraced, noPlain, agree.debugName]
    exact raise_alike _ agree
  · obtain ⟨function, id, tracedFound, plainFound, stands⟩ := found
    rw [tracedFound, plainFound]
    exact coupled_detached stands _ agree

end SymbolFiles

/-! ### All operations -/

private theorem isReaders_of_hasTable {library : Library} {table : TableRef} {id : ReaderTableId}
    (tableEq : table = .reader id) (known : library.HasTable table) : library.IsReaders table := by
  subst tableEq
  exact ⟨id, rfl, known⟩

namespace Operation

/-- Whether an operation changes the debug setting and nothing else. -/
def toggles : Operation → Bool
  | .setDebug _ | .setCommand _ | .applyConfiguration _ | .applyEnvironment _ => true
  | _ => false

/-- What users of the library do: they hand in the tables of readers, they leave
a table as it was made, and they reach the functions of a reader through the
active table. -/
def Ordinary (library : Library) : Operation → Prop
  | .setTable file table => library.Lists file ∧ ∃ id, table = .reader id
  | .addSymbolFile _ _ _ table _ => ∃ id, table = .reader id
  | .presentNames source => ∃ file, source = .active file
  | .callMethod source _ _ detached => (∃ file, source = .active file) ∧ detached = false
  | .reshapeTable _ _ | .assignSlot _ _ _ | .assignProbeTable _ _ | .assignProbes _ _ => False
  | .install _ | .uninstall _ => False
  | .setStream _ | .writeRecord _ | .render _ => False
  | _ => True

theorem Ordinary.gated {library : Library} {operation : Operation}
    (ordinary : operation.Ordinary library) : operation.Gated := by
  cases operation with
  | install file => exact ordinary
  | uninstall file => exact ordinary
  | _ => exact trivial

/-- How an operation makes its calls without logging. Only a relocation shows
the difference, since its function is called on its own. -/
def view : Operation → Call → Call
  | .relocate _ _ _ => Call.unbound
  | _ => fun request => request

theorem Ordinary.beside {operation : Operation} (ordinary : operation.Ordinary now.library)
    (agree : Agree now.library plain) : operation.Ordinary plain := by
  cases operation with
  | setTable file table => exact ⟨(agree.lists_iff file).mpr ordinary.1, ordinary.2⟩
  | _ => exact ordinary

theorem Ordinary.admissible_beside {operation : Operation}
    (ordinary : operation.Ordinary now.library) (admissible : operation.Admissible now.library)
    (agree : Agree now.library plain) : operation.Admissible plain := by
  cases operation with
  | newReaderTable table =>
    intro probes found
    rw [agree.probeTables]
    exact admissible probes found
  | reshapeTable id shape => exact absurd ordinary not_false
  | assignProbeTable table replacement => exact absurd ordinary not_false
  | setTable file table =>
    obtain ⟨_, id, tableEq⟩ := ordinary
    exact agree.hasTable (isReaders_of_hasTable tableEq admissible)
  | addSymbolFile space name quick table flags =>
    obtain ⟨id, tableEq⟩ := ordinary
    exact agree.hasTable (isReaders_of_hasTable tableEq admissible)
  | post event data => exact admissible
  | _ => exact trivial

/-- Whatever ordinary operation is started in both libraries, it makes the same
calls in both and ends alike, unless it changes the debug setting. -/
theorem coupled {operation : Operation} (ordinary : operation.Ordinary now.library)
    (admissible : operation.Admissible now.library) (kept : operation.toggles = false)
    (begun : Begun Operation.Gated now) (agree : Agree now.library plain) :
    Coupled operation.view Alike operation.routine now operation.routine plain := by
  cases operation with
  | createSpace name => exact coupled_map (edit_unaware (unaware_create name) agree agree.known)
  | addObjectFile space name quick =>
    exact coupled_map (mirrored_addObjectFile space name quick agree)
  | removeObjectFile space file =>
    exact coupled_map (mirrored_removeObjectFile space file begun agree)
  | dispose space => exact coupled_map (mirrored_dispose space begun agree)
  | setPartialSymbolsRead file value =>
    exact coupled_map (edit_unaware (unaware_setPartialSymbolsRead file value) agree agree.known)
  | newProbeTable function =>
    exact coupled_map (edit_unaware (unaware_newProbeTable function) agree
      (agree.known.newProbeTable function))
  | newReaderTable table =>
    exact coupled_map (edit_unaware (unaware_newReaderTable table) agree
      (agree.known.newReaderTable admissible))
  | newQuickFunctions functions =>
    exact coupled_map (edit_unaware (unaware_newQuickFunctions functions) agree agree.known)
  | presentNames source =>
    obtain ⟨file, rfl⟩ := ordinary
    exact coupled_presentNames file agree
  | callMethod source method arguments detached =>
    obtain ⟨⟨file, rfl⟩, rfl⟩ := ordinary
    exact coupled_callMethod file method arguments agree
  | setTable file table =>
    obtain ⟨live, id, tableEq⟩ := ordinary
    have inStep := begun.inStep fun _ gated => gated
    have succeeds := inStep.setTable_ok begun.sound live table
    obtain ⟨attached, afterEq⟩ := begun.sound.layer.setTable_accepted succeeds
    exact coupled_map (mirrored_setTable (isReaders_of_hasTable tableEq admissible)
      (Prod.ext succeeds afterEq) attached agree)
  | addSymbolFile space name quick table flags =>
    obtain ⟨id, tableEq⟩ := ordinary
    exact coupled_map
      (mirrored_addSymbolFile flags (isReaders_of_hasTable tableEq admissible) begun agree)
  | finishSymbolFile space file => exact coupled_map (mirrored_finish space file begun agree)
  | probes file => exact coupled_map (mirrored_probes file agree)
  | relocate file sectionInfo buffer =>
    exact coupled_map (coupled_relocate file sectionInfo buffer agree)
  | describe object content =>
    exact coupled_map (edit_unaware (unaware_describe object content) agree agree.known)
  | hasPartialSymbols file => exact coupled_map (coupled_hasPartialSymbols file agree)
  | access file request => exact coupled_map (coupled_access file request agree)
  | symbolLanguage file name domain =>
    exact coupled_map (coupled_symbolLanguage file name domain agree)
  | createEvent => exact coupled_map (edit_unaware unaware_createEvent agree agree.known)
  | subscribe event function =>
    exact coupled_map (edit_unaware (unaware_subscribe event _) agree agree.known)
  | post event data => exact coupled_map (mirrored_post data begun.attentive admissible agree)
  | reshapeTable id shape => exact absurd ordinary not_false
  | assignSlot table slot function => exact absurd ordinary not_false
  | assignProbeTable table replacement => exact absurd ordinary not_false
  | assignProbes table function => exact absurd ordinary not_false
  | install file => exact absurd ordinary not_false
  | uninstall file => exact absurd ordinary not_false
  | setStream stream => exact absurd ordinary not_false
  | writeRecord text => exact absurd ordinary not_false
  | render value => exact absurd ordinary not_false
  | setDebug value => cases kept
  | setCommand text => cases kept
  | applyConfiguration configuration => cases kept
  | applyEnvironment environment => cases kept

end Operation

end ReaderTrace
