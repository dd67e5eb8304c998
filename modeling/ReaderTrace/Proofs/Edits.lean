import Mathlib.Logic.Relation
import ReaderTrace.Operation
import ReaderTrace.Proofs.Logging
import ReaderTrace.Proofs.Registry

/-!
The single edits of which every change of the library is made.

An operation that waits for a client goes on from whatever state the client has
left, so what is shown here of a routine holds from every state: each change that
the routine itself makes is a sequence of single edits. What no single edit does
to the library, no run does.
-/

namespace ReaderTrace

open Routine

/-- Single edits that make program spaces and end them. -/
inductive Settling (library : Library) : Library → Prop
  | created (name : Option String) :
      Settling library ((ProgramSpace.create name).apply library).2
  | closed (space : SpaceId) :
      Settling library ((ProgramSpace.markDisposed space).apply library).2
  | forgotten (space : SpaceId) :
      Settling library ((ProgramSpace.unregister space).apply library).2

/-- The parts of the library that only some operations are about: the object files
that a program space lists, whether an object file's symbols were read, and the
events with their listeners. -/
inductive Concern
  | files (space : SpaceId)
  | symbolsRead (file : ObjectFileId)
  | events

def Concern.Same (library after : Library) : Concern → Prop
  | .files space => after.owned space = library.owned space
  | .symbolsRead file => after.partialSymbolsRead file = library.partialSymbolsRead file
  | .events => after.events = library.events

/-- All that something is the concern of. -/
def Library.concerns (library : Library) :
    List ProgramSpace × List Bool × List (List Listener) :=
  (library.spaces, library.objectFiles.map ObjectFile.partialSymbolsRead, library.events)

theorem Library.concerns_modifyObjectFile (library : Library) (file : ObjectFileId)
    {change : ObjectFile → ObjectFile}
    (kept : ∀ record, (change record).partialSymbolsRead = record.partialSymbolsRead) :
    (library.modifyObjectFile file change).concerns = library.concerns := by
  unfold concerns
  rw [library.map_objectFiles_of_kept kept]
  rfl

namespace Concern

variable {library after : Library}

theorem Same.trans {middle : Library} {concern : Concern} (first : concern.Same library middle)
    (second : concern.Same middle after) : concern.Same library after := by
  cases concern <;> exact Eq.trans second first

theorem same_of_eq (same : after.concerns = library.concerns) (concern : Concern) :
    concern.Same library after := by
  cases concern with
  | files space =>
    have spaces : after.spaces = library.spaces := congrArg Prod.fst same
    simp only [Same, Library.owned, Library.space?, spaces]
  | symbolsRead file =>
    have flags := congrArg (fun concerns => concerns.2.1[file.index]?) same
    simp only [Library.concerns, List.getElem?_map] at flags
    exact congrArg (Option.getD · false) flags
  | events => exact congrArg (fun concerns => concerns.2.2) same

end Concern

/-- Making a program space and ending it concerns none of these. -/
theorem Settling.same {library after : Library} (settling : Settling library after)
    (concern : Concern) : concern.Same library after := by
  cases concern with
  | files space =>
    cases settling with
    | created name => exact ProgramSpace.owned_create library name space
    | closed closing => exact ProgramSpace.owned_markDisposed library closing space
    | forgotten forgetting => rfl
  | symbolsRead file => cases settling <;> rfl
  | events => cases settling <;> rfl

/-- All other single edits. -/
inductive Edited (library : Library) : Library → Prop
  -- Object files
  | fileAdded (space : SpaceId) (name : String) (quick : Option QuickId)
      (opened : library.isDisposed space = false) :
      Edited library (ProgramSpace.withFile library space name quick)
  | fileStruck (space : SpaceId) (file : ObjectFileId) (member : file ∈ library.owned space) :
      Edited library (ProgramSpace.struck library space file)
  | fileDetached (file : ObjectFileId) : Edited library ((Edit.detach file).apply library).2
  | symbolsRead (file : ObjectFileId) (value : Bool) :
      Edited library ((Edit.setPartialSymbolsRead file value).apply library).2
  | tableAssigned (file : ObjectFileId) (table : TableRef)
      (attached : library.isAttached file = true) : Edited library (library.withTable file table)
  -- Logging
  | debugSet (value : Bool) : Edited library { library with debug := value }
  | shadowBuilt (base : TableRef) (host : ObjectFileId) :
      Edited library ((Logging.newShadow base host).apply library).2
  | entryMade (file : ObjectFileId) (data : DebugData) :
      Edited library { library with debugData := library.debugData.associate file data }
  | entryCleared (file : ObjectFileId) :
      Edited library { library with debugData := library.debugData.clear file }
  | rendered (value : Value) : Edited library ((Edit.render value).apply library).2
  | streamSet (stream : Stream) : Edited library ((Edit.setStream stream).apply library).2
  -- Events
  | eventCreated : Edited library (Event.create.apply library).2
  | subscribed (event : EventId) (listener : Listener) :
      Edited library ((Event.subscribe event listener).apply library).2
  -- What readers and other clients make and change
  | described (object : ObjectId) (content : Content) :
      Edited library ((Edit.describe object content).apply library).2
  | probeTableMade (function : FunctionId) :
      Edited library ((Edit.newProbeTable function).apply library).2
  | readerTableMade (table : ReaderTable) :
      Edited library ((Edit.newReaderTable table).apply library).2
  | quickFunctionsMade (functions : QuickFunctions) :
      Edited library ((Edit.newQuickFunctions functions).apply library).2
  | readerTableModified (id : ReaderTableId) (change : ReaderTable → ReaderTable) :
      Edited library ((Edit.modifyReaderTable id change).apply library).2
  | probeTableModified (id : ProbeTableId) (function : FunctionId) :
      Edited library { library with probeTables := library.probeTables.set id.index function }

/-- A sequence of single edits, which make and end program spaces only where
this `settles` something. -/
abbrev Rewritten (settles : Prop) : Library → Library → Prop :=
  Relation.ReflTransGen fun library after => Edited library after ∨ settles ∧ Settling library after

/-- A sequence of single edits that leaves alone what is outside `scope`. -/
structure Reworked (settles : Prop) (scope : Concern → Prop) (library after : Library) :
    Prop where
  rewritten : Rewritten settles library after
  spares : ∀ concern, ¬scope concern → concern.Same library after

variable {settles : Prop} {scope : Concern → Prop} {α β : Type}

namespace Reworked

variable {library after : Library}

theorem refl (library : Library) : Reworked settles scope library library :=
  ⟨.refl, fun concern _ => Concern.same_of_eq rfl concern⟩

theorem trans {middle : Library} (first : Reworked settles scope library middle)
    (second : Reworked settles scope middle after) : Reworked settles scope library after where
  rewritten := first.rewritten.trans second.rewritten
  spares := fun concern outside =>
    (first.spares concern outside).trans (second.spares concern outside)

theorem single (edited : Edited library after)
    (spares : ∀ concern, ¬scope concern → concern.Same library after) :
    Reworked settles scope library after :=
  ⟨.single (Or.inl edited), spares⟩

theorem plain (edited : Edited library after) (same : after.concerns = library.concerns) :
    Reworked settles scope library after :=
  single edited fun concern _ => Concern.same_of_eq same concern

end Reworked

/-! ### Edits that are made of single ones -/

namespace Edit

/-- The edit is made of single edits, whether or not it fails. -/
def Rewrites (settles : Prop) (change : Edit α) : Prop :=
  ∀ library, Rewritten settles library (change.apply library).2

/-- The edit is made of single edits, and it leaves alone what is outside `scope`. -/
def Reworks (settles : Prop) (scope : Concern → Prop) (change : Edit α) : Prop :=
  ∀ library, Reworked settles scope library (change.apply library).2

theorem Reworks.rewrites {change : Edit α} (reworks : change.Reworks settles fun _ => True) :
    change.Rewrites settles :=
  fun library => (reworks library).rewritten

theorem reworks_single {change : Edit α}
    (each : ∀ library, Edited library (change.apply library).2)
    (same : ∀ library, (change.apply library).2.concerns = library.concerns) :
    change.Reworks settles scope :=
  fun library => .plain (each library) (same library)

theorem reworks_settling {change : Edit α} (may : settles)
    (each : ∀ library, Settling library (change.apply library).2) :
    change.Reworks settles scope := by
  intro library
  exact ⟨.single (Or.inr ⟨may, each library⟩), fun concern _ => (each library).same concern⟩

theorem reworks_pure (value : α) : (pure value : Edit α).Reworks settles scope :=
  fun library => .refl library

theorem reworks_fail (fault : Fault) : (fail fault : Edit α).Reworks settles scope :=
  fun library => .refl library

theorem reworks_require (condition : Bool) (cause : Assertion) :
    (require condition cause).Reworks settles scope := by
  intro library
  rw [apply_require]
  exact .refl library

theorem Reworks.bind {change : Edit α} {next : α → Edit β}
    (first : change.Reworks settles scope)
    (second : ∀ value, (next value).Reworks settles scope) :
    (change >>= next).Reworks settles scope := by
  intro library
  have changed := first library
  rw [apply_bind]
  rcases applied : change.apply library with ⟨outcome, after⟩
  rw [applied] at changed
  cases outcome with
  | ok value => exact changed.trans (second value after)
  | error raised => exact changed

theorem reworks_get {next : Library → Edit β}
    (second : ∀ library, (next library).Reworks settles scope) :
    (get >>= next).Reworks settles scope := by
  intro library
  rw [apply_bind, apply_get]
  exact second library library

theorem reworks_forM {items : List β} {body : β → Edit Unit}
    (each : ∀ item, (body item).Reworks settles scope) :
    (items.forM body).Reworks settles scope := by
  induction items with
  | nil => exact reworks_pure _
  | cons item rest ih => exact (each item).bind fun _ => ih

end Edit

section Edits

open Edit

theorem reworks_assignTable (file : ObjectFileId) (table : TableRef) :
    (assignTable file table).Reworks settles scope := by
  intro library
  rw [apply_assignTable]
  split
  · next attached =>
    apply Reworked.plain (.tableAssigned file table attached)
    exact library.concerns_modifyObjectFile file fun _ => rfl
  · exact .refl library

theorem reworks_install (file : ObjectFileId) : (Logging.install file).Reworks settles scope := by
  apply reworks_get
  intro library
  apply (reworks_require _ _).bind
  intro _
  split
  · exact reworks_fail _
  · next base _ =>
    have builds : (Logging.newShadow base file).Reworks settles scope :=
      reworks_single (fun _ => .shadowBuilt base file) fun _ => rfl
    apply builds.bind
    intro shadow
    have remembers : (modify fun library : Library =>
        { library with
          debugData := library.debugData.associate file { base := base, shadow := shadow } } :
        Edit PUnit).Reworks settles scope :=
      reworks_single (fun _ => .entryMade file _) fun _ => rfl
    exact remembers.bind fun _ => reworks_assignTable file shadow

theorem reworks_uninstall (file : ObjectFileId) :
    (Logging.uninstall file).Reworks settles scope := by
  apply reworks_get
  intro library
  apply (reworks_require _ _).bind
  intro _
  split
  · exact reworks_fail _
  · apply (reworks_assignTable file _).bind
    intro _
    exact reworks_single (fun _ => .entryCleared file) fun _ => rfl

theorem reworks_setTable (file : ObjectFileId) (table : TableRef) :
    (Logging.setTable file table).Reworks settles scope := by
  have assigns : ∀ library : Library,
      (do
        assignTable file table
        if library.debug then
          Logging.install file : Edit Unit).Reworks settles scope := by
    intro library
    apply (reworks_assignTable file table).bind
    intro _
    split
    · exact reworks_install file
    · exact reworks_pure _
  apply reworks_get
  intro library
  dsimp only
  by_cases installed : library.isInstalled file = true
  · rw [if_pos installed]
    apply (reworks_require _ _).bind
    intro _
    exact (reworks_uninstall file).bind fun _ => assigns library
  · rw [if_neg installed]
    exact assigns library

theorem reworks_reconcile (value : Bool) (file : ObjectFileId) :
    (Logging.reconcile value file).Reworks settles scope := by
  apply reworks_get
  intro library
  split
  · split
    · exact reworks_install file
    · split
      · exact reworks_uninstall file
      · exact reworks_pure _
  · exact reworks_pure _

theorem reworks_setDebug (value : Bool) : (Logging.setDebug value).Reworks settles scope := by
  have flips : (modify fun library : Library => { library with debug := value } :
      Edit PUnit).Reworks settles scope :=
    reworks_single (fun _ => .debugSet value) fun _ => rfl
  apply flips.bind
  intro _
  apply reworks_get
  intro library
  exact reworks_forM fun file => reworks_reconcile value file

theorem reworks_setCommand (text : String) : (Logging.setCommand text).Reworks settles scope := by
  unfold Logging.setCommand
  split
  · exact reworks_fail _
  · exact reworks_setDebug _

theorem reworks_applyEnvironment (environment : Environment) :
    (Logging.applyEnvironment environment).Reworks settles scope := by
  unfold Logging.applyEnvironment
  split
  · exact reworks_fail _
  · exact reworks_setDebug _

theorem reworks_release (file : ObjectFileId) : (Logging.release file).Reworks settles scope := by
  apply reworks_get
  intro library
  split
  · exact reworks_uninstall file
  · exact reworks_pure _

theorem reworks_detach (file : ObjectFileId) : (detach file).Reworks settles scope := by
  intro library
  apply Reworked.plain (.fileDetached file)
  exact library.concerns_modifyObjectFile file fun _ => rfl

theorem reworks_setPartialSymbolsRead {file : ObjectFileId}
    (inside : scope (.symbolsRead file)) (value : Bool) :
    (setPartialSymbolsRead file value).Reworks settles scope := by
  intro library
  apply Reworked.single (.symbolsRead file value)
  intro concern outside
  cases concern with
  | files space => rfl
  | symbolsRead other =>
    have different : other ≠ file := by
      rintro rfl
      exact outside inside
    change Option.getD (Option.map _ ((library.modifyObjectFile file _).objectFile? other)) _ = _
    rw [Library.objectFile?_modifyObjectFile, if_neg different]
    rfl
  | events => rfl

theorem reworks_createEvent (inside : scope .events) : Event.create.Reworks settles scope := by
  intro library
  apply Reworked.single .eventCreated
  intro concern outside
  cases concern with
  | files space => rfl
  | symbolsRead file => rfl
  | events => exact absurd inside outside

theorem reworks_subscribe (inside : scope .events) (event : EventId) (listener : Listener) :
    (Event.subscribe event listener).Reworks settles scope := by
  intro library
  apply Reworked.single (.subscribed event listener)
  intro concern outside
  cases concern with
  | files space => rfl
  | symbolsRead file => rfl
  | events => exact absurd inside outside

theorem reworks_addObjectFile {space : SpaceId} (inside : scope (.files space)) (name : String)
    (quick : Option QuickId) :
    (ProgramSpace.addObjectFile space name quick).Reworks settles scope := by
  intro library
  rw [ProgramSpace.apply_addObjectFile]
  split
  · exact .refl library
  · next notDisposed =>
    have opened := eq_false_of_ne_true notDisposed
    apply Reworked.single (.fileAdded space name quick opened)
    intro concern outside
    cases concern with
    | files other =>
      apply (ProgramSpace.owned_withFile library other name quick opened).trans
      rw [if_neg]
      rintro rfl
      exact outside inside
    | symbolsRead file =>
      exact ProgramSpace.partialSymbolsRead_withFile library space name quick file
    | events => rfl

theorem reworks_strike {space : SpaceId} (inside : scope (.files space)) (file : ObjectFileId) :
    (ProgramSpace.strike space file).Reworks settles scope := by
  intro library
  rw [ProgramSpace.apply_strike]
  split
  · next member =>
    apply Reworked.single (.fileStruck space file (List.contains_iff_mem.mp member))
    intro concern outside
    cases concern with
    | files other =>
      apply (ProgramSpace.owned_struck library space other file).trans
      rw [if_neg]
      rintro rfl
      exact outside inside
    | symbolsRead file => rfl
    | events => rfl
  · exact .refl library

theorem reworks_renderAll (values : List Value) : (renderAll values).Reworks settles scope := by
  intro library
  induction values generalizing library with
  | nil => exact .refl library
  | cons value rest ih =>
    have first : Reworked settles scope library ((render value).apply library).2 :=
      .plain (.rendered value) rfl
    exact first.trans (ih ((render value).apply library).2)

theorem reworks_renderPart (part : RecordPart) :
    (Quick.renderPart part).Reworks settles scope := by
  cases part with
  | bare text => exact reworks_pure text
  | rendered value => exact reworks_single (fun _ => .rendered value) fun _ => rfl

theorem reworks_renderParts (parts : List RecordPart) :
    (Quick.renderParts parts).Reworks settles scope := by
  induction parts with
  | nil => exact reworks_pure _
  | cons part rest ih =>
    apply (reworks_renderPart part).bind
    intro text
    exact ih.bind fun texts => reworks_pure _

theorem reworks_fileName (kept : Content → Option String) (object : ObjectId) :
    (Quick.fileName kept object).Reworks settles scope := by
  apply reworks_get
  intro library
  split
  · exact reworks_pure _
  · exact reworks_fail _

theorem reworks_renderResult (kind : ResultKind) (result : Value) :
    (Quick.renderResult kind result).Reworks settles scope := by
  unfold Quick.renderResult
  split
  · exact reworks_pure _
  · have renders : (render result).Reworks settles scope :=
      reworks_single (fun _ => .rendered result) fun _ => rfl
    exact renders.bind fun text => reworks_pure _
  · exact reworks_pure _
  · exact reworks_fileName Content.symtab? _
  · exact reworks_fileName Content.compunit? _
  · exact reworks_fail _

theorem reworks_activeTable (file : ObjectFileId) :
    (SymbolFile.activeTable file).Reworks settles scope := by
  apply reworks_get
  intro library
  split
  · exact reworks_pure _
  · exact reworks_fail _

theorem reworks_reshapeTable (id : ReaderTableId) (shape : ReaderTable) :
    (reshapeTable id shape).Reworks settles scope :=
  reworks_single (fun _ => .readerTableModified id _) fun _ => rfl

theorem reworks_assignSlot (table : TableRef) (slot : Slot) (function : Option FunctionId) :
    (assignSlot table slot function).Reworks settles scope := by
  cases table with
  | reader id => exact reworks_single (fun _ => .readerTableModified id _) fun _ => rfl
  | shadow id => exact reworks_fail _

theorem reworks_assignProbeTable (table : TableRef) (probes : Option ProbeTableId) :
    (assignProbeTable table probes).Reworks settles scope := by
  cases table with
  | reader id => exact reworks_single (fun _ => .readerTableModified id _) fun _ => rfl
  | shadow id => exact reworks_fail _

theorem reworks_assignProbes (table : TableRef) (function : FunctionId) :
    (assignProbes table function).Reworks settles scope := by
  intro library
  unfold assignProbes
  simp only [apply_bind, apply_get]
  split
  · next probes _ _ => exact .plain (.probeTableModified probes function) rfl
  · exact .refl library

end Edits

/-! ### Routines -/

namespace Routine

/-- From the library `now` on, each change of the routine itself is made of
single edits. -/
def Writes (settles : Prop) : Routine α → Library → Prop
  | .done _, _ => True
  | .read next, now => Writes settles (next now) now
  | .write library next, now => Rewritten settles now library ∧ Writes settles next library
  | .call _ next, _ => ∀ reply later, Writes settles (next reply) later
  | .mark _ next, now => Writes settles next now

def Rewrites (settles : Prop) (routine : Routine α) : Prop :=
  ∀ now, Writes settles routine now

theorem Writes.weaken {routine : Routine α} {now : Library} {weaker : Prop}
    (may : settles → weaker) (writes : Writes settles routine now) :
    Writes weaker routine now := by
  induction routine generalizing now with
  | done outcome => exact trivial
  | read rest ih => exact ih now writes
  | write library rest ih =>
    have widened : Rewritten weaker now library :=
      Relation.ReflTransGen.mono (fun _ _ => Or.imp_right (And.imp_left may)) _ _ writes.1
    exact ⟨widened, ih writes.2⟩
  | call request rest ih => exact fun reply later => ih reply (writes reply later)
  | mark milestone rest ih => exact ih writes

/-- The destruction of an object file is marked only where the routine goes on to post it. -/
def Heralds (milestone : Milestone) (next : Routine α) : Prop :=
  ∀ file, milestone = .destroyed file →
    ∃ rest, next = (Event.post destroyedEvent (.objectFile file)).bind rest

theorem Heralds.bind {milestone : Milestone} {routine : Routine α}
    (heralds : Heralds milestone routine) (next : α → Routine β) :
    Heralds milestone (routine.bind next) := by
  intro file destroyed
  obtain ⟨rest, rfl⟩ := heralds file destroyed
  exact ⟨fun value => (rest value).bind next, bind_assoc ..⟩

/-- From the library `now` on, each change of the routine itself is made of
single edits and leaves alone what is outside `scope`, and each destruction that the
routine marks is posted. -/
def Works (settles : Prop) (scope : Concern → Prop) : Routine α → Library → Prop
  | .done _, _ => True
  | .read next, now => Works settles scope (next now) now
  | .write library next, now =>
      Reworked settles scope now library ∧ Works settles scope next library
  | .call _ next, _ => ∀ reply later, Works settles scope (next reply) later
  | .mark milestone next, now => Heralds milestone next ∧ Works settles scope next now

def Reworks (settles : Prop) (scope : Concern → Prop) (routine : Routine α) : Prop :=
  ∀ now, Works settles scope routine now

theorem Works.writes {routine : Routine α} {now : Library}
    (works : Works settles scope routine now) : Writes settles routine now := by
  induction routine generalizing now with
  | done outcome => exact trivial
  | read rest ih => exact ih now works
  | write library rest ih => exact ⟨works.1.rewritten, ih works.2⟩
  | call request rest ih => exact fun reply later => ih reply (works reply later)
  | mark milestone rest ih => exact ih works.2

theorem Reworks.rewrites {routine : Routine α} (reworks : routine.Reworks settles fun _ => True) :
    routine.Rewrites settles :=
  fun now => (reworks now).writes

theorem Works.bind {routine : Routine α} {next : α → Routine β} {now : Library}
    (first : Works settles scope routine now)
    (second : ∀ value, (next value).Reworks settles scope) :
    Works settles scope (routine.bind next) now := by
  induction routine generalizing now with
  | done outcome =>
    cases outcome with
    | ok value => exact second value now
    | error raised => exact trivial
  | read rest ih => exact ih now first
  | write library rest ih => exact ⟨first.1, ih first.2⟩
  | call request rest ih => exact fun reply later => ih reply (first reply later)
  | mark milestone rest ih => exact ⟨first.1.bind next, ih first.2⟩

theorem Reworks.bind {routine : Routine α} {next : α → Routine β}
    (first : routine.Reworks settles scope)
    (second : ∀ value, (next value).Reworks settles scope) :
    (routine >>= next).Reworks settles scope :=
  fun now => (first now).bind second

theorem reworks_done (outcome : Except Raised α) : (Routine.done outcome).Reworks settles scope :=
  fun _ => trivial

theorem Reworks.map {routine : Routine α} {shown : α → β}
    (reworks : routine.Reworks settles scope) :
    (routine >>= fun value => pure (shown value)).Reworks settles scope :=
  reworks.bind fun value => reworks_done (.ok (shown value))

theorem Reworks.discard {routine : Routine α} (reworks : routine.Reworks settles scope) :
    (discard routine).Reworks settles scope :=
  reworks.map

theorem reworks_library {next : Library → Routine α}
    (each : ∀ library, (next library).Reworks settles scope) :
    (library >>= next).Reworks settles scope :=
  fun now => each now now

theorem reworks_edit {change : Edit α} (reworks : change.Reworks settles scope) :
    (edit change).Reworks settles scope :=
  fun now => ⟨reworks now, trivial⟩

theorem reworks_edit_single {change : Edit α}
    (each : ∀ library, Edited library (change.apply library).2)
    (same : ∀ library, (change.apply library).2.concerns = library.concerns) :
    (edit change).Reworks settles scope :=
  reworks_edit (Edit.reworks_single each same)

theorem reworks_ask (request : Call) : (ask request).Reworks settles scope := by
  intro now reply later
  cases reply <;> exact trivial

theorem reworks_forM {items : List β} {body : β → Routine Unit}
    (each : ∀ item, (body item).Reworks settles scope) :
    (items.forM body).Reworks settles scope := by
  induction items with
  | nil => exact reworks_done _
  | cons item rest ih => exact (each item).bind fun _ => ih

end Routine

/-! ### Calls of a reader's functions -/

section Calls

theorem reworks_writeRecord (record : String) :
    (Routine.writeRecord record).Reworks settles scope :=
  reworks_library fun _ => reworks_ask _

theorem reworks_invoke (function : TableFunction) (receiver : Option Receiver)
    (arguments : List Value) : (function.invoke receiver arguments).Reworks settles scope := by
  induction function generalizing receiver arguments with
  | client id => exact reworks_ask _
  | forward how target ih =>
    apply (reworks_edit (reworks_renderAll _)).bind
    intro texts
    apply (reworks_writeRecord _).discard.bind
    intro _
    apply (ih _ _).bind
    intro result
    split
    · apply Reworks.bind (reworks_edit_single (fun _ => .rendered result) fun _ => rfl)
      intro text
      exact (reworks_writeRecord _).discard.map
    · exact reworks_done _

theorem reworks_activeTable_bind (file : ObjectFileId) {next : TableRef → Routine β}
    (second : ∀ table, (next table).Reworks settles scope) :
    Routine.Reworks settles scope (liftM (SymbolFile.activeTable file) >>= next) :=
  (reworks_edit (reworks_activeTable file)).bind second

theorem reworks_callPresent (file : ObjectFileId) (slot : Slot) (arguments : List Value) :
    (SymbolFile.callPresent file slot arguments).Reworks settles scope := by
  apply reworks_activeTable_bind
  intro table
  apply reworks_library
  intro library
  split
  · exact reworks_done _
  · exact (reworks_invoke _ _ _).discard

theorem reworks_presentNames (source : TableSource) :
    (Operation.presentNamesOf source).Reworks settles scope := by
  apply reworks_library
  intro library
  split <;> exact reworks_done _

theorem reworks_callMethod (source : TableSource) (method : Option Slot)
    (arguments : List Value) (detached : Bool) :
    (Operation.invoke source method arguments detached).Reworks settles scope := by
  apply reworks_library
  intro library
  split
  · exact reworks_done _
  · exact (reworks_invoke _ _ _).map

theorem reworks_probes (file : ObjectFileId) : (SymbolFile.probes file).Reworks settles scope := by
  apply reworks_activeTable_bind
  intro table
  apply reworks_library
  intro library
  split
  · exact reworks_done _
  · exact (reworks_invoke _ _ _).map

theorem reworks_relocate (file : ObjectFileId) (sectionInfo buffer : Value) :
    (SymbolFile.relocate file sectionInfo buffer).Reworks settles scope := by
  apply reworks_activeTable_bind
  intro table
  apply reworks_library
  intro library
  split
  · exact reworks_done _
  · exact reworks_invoke _ _ _

end Calls

/-! ### Object files and program spaces -/

section Spaces

theorem reworks_notify (data : Value) (listener : Listener) :
    (Event.notify data listener).Reworks settles scope := by
  cases listener with
  | release =>
    simp only [Event.notify]
    split
    · exact reworks_edit (reworks_release _)
    · exact reworks_done _
  | client function => exact (reworks_ask _).discard

theorem reworks_post (event : EventId) (data : Value) :
    (Event.post event data).Reworks settles scope :=
  reworks_library fun _ => reworks_forM fun listener => reworks_notify data listener

theorem reworks_removeObjectFile {space : SpaceId} (inside : scope (.files space))
    (file : ObjectFileId) :
    (ProgramSpace.removeObjectFile space file).Reworks settles scope := by
  have posts : (Event.post destroyedEvent (.objectFile file) >>= fun _ =>
      Routine.edit (Edit.detach file)).Reworks settles scope :=
    (reworks_post destroyedEvent (.objectFile file)).bind fun _ => reworks_edit (reworks_detach file)
  have destroys : (ProgramSpace.destroy file).Reworks settles scope := by
    refine fun now => ⟨?_, posts now⟩
    rintro _ ⟨⟩
    exact ⟨_, rfl⟩
  exact (reworks_edit (reworks_strike inside file)).bind fun _ => destroys

theorem reworks_removeAll {space : SpaceId} (inside : scope (.files space)) (count : Nat) :
    (ProgramSpace.removeAll space count).Reworks settles scope := by
  induction count with
  | zero => exact reworks_done _
  | succ count ih =>
    apply reworks_library
    intro library
    split
    · exact reworks_done _
    · exact (reworks_removeObjectFile inside _).bind fun _ => ih

theorem reworks_dispose (may : settles) {space : SpaceId} (inside : scope (.files space)) :
    (ProgramSpace.dispose space).Reworks settles scope := by
  apply reworks_library
  intro library
  split
  · exact reworks_done _
  · apply Reworks.bind (reworks_edit (Edit.reworks_settling may fun _ => .closed space))
    intro _
    apply (reworks_removeAll inside _).bind
    intro _
    exact reworks_edit (Edit.reworks_settling may fun _ => .forgotten space)

theorem reworks_setTable_reached (file : ObjectFileId) (table : TableRef) :
    (SymbolFile.setTable file table).Reworks settles scope :=
  (reworks_edit (reworks_setTable file table)).bind fun _ _ => ⟨nofun, trivial⟩

theorem reworks_load {file : ObjectFileId} (reads : scope (.symbolsRead file)) (table : TableRef)
    (flags : Double) : (SymbolFile.load file table flags).Reworks settles scope := by
  apply (reworks_setTable_reached file table).bind
  intro _
  apply (reworks_callPresent file _ _).bind
  intro _
  apply (reworks_callPresent file _ _).bind
  intro _
  split
  · exact reworks_done _
  · apply (reworks_callPresent file _ _).bind
    intro _
    apply Reworks.bind (reworks_edit (reworks_setPartialSymbolsRead reads true))
    intro _
    exact reworks_callPresent file _ _

theorem reworks_addSymbolFile {space : SpaceId} (inside : scope (.files space))
    (reads : ∀ file, scope (.symbolsRead file)) (name : String) (quick : Option QuickId)
    (table : TableRef) (flags : Double) :
    (SymbolFile.add space name quick table flags).Reworks settles scope := by
  apply (reworks_edit (reworks_addObjectFile inside name quick)).bind
  intro file
  exact (reworks_load (reads file) table flags).map

theorem reworks_finish {space : SpaceId} (inside : scope (.files space)) (file : ObjectFileId) :
    (SymbolFile.finish space file).Reworks settles scope :=
  (reworks_callPresent file _ _).bind fun _ => reworks_removeObjectFile inside file

end Spaces

/-! ### Quick functions -/

section QuickFunctions

theorem reworks_recordCall (debug : Bool) (name : String) (request : QuickRequest Value)
    (texts : List String) : (Quick.recordCall debug name request texts).Reworks settles scope := by
  unfold Quick.recordCall
  split
  · exact (reworks_writeRecord _).discard
  · exact reworks_done _

theorem reworks_consult (functions : Option QuickId) (file : ObjectFileId)
    (request : QuickRequest Value) :
    (Quick.consult functions file request).Reworks settles scope := by
  cases functions with
  | none => exact reworks_done _
  | some functions => exact reworks_ask _

theorem reworks_recordResult (debug : Bool) (request : QuickRequest Value) (result : Value) :
    (Quick.recordResult debug request result).Reworks settles scope := by
  unfold Quick.recordResult
  split
  · apply (reworks_edit (reworks_renderResult _ result)).bind
    intro text
    split
    · exact reworks_done _
    · exact (reworks_writeRecord _).discard
  · exact reworks_done _

theorem reworks_access (file : ObjectFileId) (request : QuickRequest Value) :
    (Quick.access file request).Reworks settles scope := by
  apply (reworks_edit (reworks_renderParts _)).bind
  intro texts
  apply reworks_library
  intro before
  apply (reworks_recordCall _ _ request texts).bind
  intro _
  apply (reworks_consult _ file request).bind
  intro result
  apply reworks_library
  intro after
  exact (reworks_recordResult _ request result).map

theorem reworks_haveSymbols (functions : Option QuickId) (file : ObjectFileId) :
    (Quick.haveSymbols functions file).Reworks settles scope := by
  cases functions with
  | none => exact reworks_done _
  | some functions =>
    have couldRead : (Quick.couldRead functions file).Reworks settles scope := by
      apply reworks_library
      intro library
      dsimp only
      split
      · exact (reworks_ask _).map
      · exact reworks_done _
    apply couldRead.bind
    intro lazily
    split
    · exact reworks_done _
    · exact reworks_ask _

theorem reworks_hasPartialSymbols (file : ObjectFileId) :
    (Quick.hasPartialSymbols file).Reworks settles scope := by
  have recordAnswer : ∀ debug name answer,
      (Quick.recordAnswer debug name answer).Reworks settles scope := by
    intro debug name answer
    unfold Quick.recordAnswer
    split
    · apply Reworks.bind (reworks_edit_single (fun _ => .rendered answer) fun _ => rfl)
      intro text
      exact (reworks_writeRecord _).discard
    · exact reworks_done _
  apply reworks_library
  intro before
  apply (reworks_haveSymbols _ file).bind
  intro answer
  apply reworks_library
  intro after
  exact (recordAnswer _ _ answer).map

theorem reworks_symbolLanguage (file : ObjectFileId) (name : String) (domain : Domain) :
    (Quick.symbolLanguage file name domain).Reworks settles scope := by
  apply reworks_library
  intro library
  split
  · exact reworks_done _
  · apply (reworks_ask _).bind
    intro answer
    apply reworks_library
    intro after
    split <;> exact reworks_done _

end QuickFunctions

/-! ### All operations -/

/-- Whether an operation creates program spaces or disposes of them. -/
def Operation.Settles : Operation → Prop
  | .createSpace _ => True
  | .dispose _ => True
  | _ => False

/-- The program space whose list of object files an operation is about. -/
def Operation.space? : Operation → Option SpaceId
  | .addObjectFile space _ _ => some space
  | .removeObjectFile space _ => some space
  | .dispose space => some space
  | .addSymbolFile space _ _ _ _ => some space
  | .finishSymbolFile space _ => some space
  | _ => none

/-- What an operation is about. -/
def Operation.Concerns : Operation → Concern → Prop
  | operation, .files space => operation.space? = some space
  | .setPartialSymbolsRead file _, .symbolsRead other => other = file
  | .addSymbolFile _ _ _ _ _, .symbolsRead _ => True
  | .createEvent, .events => True
  | .subscribe _ _, .events => True
  | _, _ => False

theorem Operation.reworks (operation : Operation)
    (inside : ∀ concern, operation.Concerns concern → scope concern) :
    operation.routine.Reworks operation.Settles scope := by
  cases operation with
  | createSpace name =>
    exact (reworks_edit (Edit.reworks_settling trivial fun _ => .created name)).map
  | dispose space => exact (reworks_dispose trivial (inside (.files space) rfl)).map
  | addObjectFile space name quick =>
    exact (reworks_edit (reworks_addObjectFile (inside (.files space) rfl) name quick)).map
  | removeObjectFile space file =>
    exact (reworks_removeObjectFile (inside (.files space) rfl) file).map
  | setPartialSymbolsRead file value =>
    exact (reworks_edit (reworks_setPartialSymbolsRead (inside (.symbolsRead file) rfl) value)).map
  | newProbeTable function =>
    exact (reworks_edit_single (fun _ => .probeTableMade function) fun _ => rfl).map
  | newReaderTable table =>
    exact (reworks_edit_single (fun _ => .readerTableMade table) fun _ => rfl).map
  | newQuickFunctions functions =>
    exact (reworks_edit_single (fun _ => .quickFunctionsMade functions) fun _ => rfl).map
  | reshapeTable id shape => exact (reworks_edit (reworks_reshapeTable id shape)).map
  | assignSlot table slot function =>
    exact (reworks_edit (reworks_assignSlot table slot function)).map
  | assignProbeTable table probes =>
    exact (reworks_edit (reworks_assignProbeTable table probes)).map
  | assignProbes table function =>
    exact (reworks_edit (reworks_assignProbes table function)).map
  | presentNames source => exact reworks_presentNames source
  | callMethod source method arguments detached =>
    exact reworks_callMethod source method arguments detached
  | setTable file table => exact (reworks_setTable_reached file table).map
  | install file => exact (reworks_edit (reworks_install file)).map
  | uninstall file => exact (reworks_edit (reworks_uninstall file)).map
  | setDebug value => exact (reworks_edit (reworks_setDebug value)).map
  | setCommand text => exact (reworks_edit (reworks_setCommand text)).map
  | applyConfiguration configuration => exact (reworks_edit (reworks_setDebug _)).map
  | applyEnvironment environment =>
    exact (reworks_edit (reworks_applyEnvironment environment)).map
  | setStream stream => exact (reworks_edit_single (fun _ => .streamSet stream) fun _ => rfl).map
  | writeRecord text => exact (reworks_writeRecord text).map
  | render value => exact (reworks_edit_single (fun _ => .rendered value) fun _ => rfl).map
  | addSymbolFile space name quick table flags =>
    have reads : ∀ file, scope (.symbolsRead file) := fun file =>
      inside (.symbolsRead file) trivial
    exact (reworks_addSymbolFile (inside (.files space) rfl) reads name quick table flags).map
  | finishSymbolFile space file => exact (reworks_finish (inside (.files space) rfl) file).map
  | probes file => exact (reworks_probes file).map
  | relocate file sectionInfo buffer => exact (reworks_relocate file sectionInfo buffer).map
  | describe object content =>
    exact (reworks_edit_single (fun _ => .described object content) fun _ => rfl).map
  | hasPartialSymbols file => exact (reworks_hasPartialSymbols file).map
  | access file request => exact (reworks_access file request).map
  | symbolLanguage file name domain => exact (reworks_symbolLanguage file name domain).map
  | createEvent => exact (reworks_edit (reworks_createEvent (inside .events trivial))).map
  | subscribe event function =>
    exact (reworks_edit (reworks_subscribe (inside .events trivial) event (.client function))).map
  | post event data => exact (reworks_post event data).map

theorem Operation.rewrites (operation : Operation) :
    operation.routine.Rewrites operation.Settles :=
  (operation.reworks fun _ _ => trivial).rewrites

/-- From the library `now` on, and whatever clients reply and do meanwhile, the routine
posts every destruction that it marks. -/
def Routine.PostsMarked : Routine α → Library → Prop
  | .done _, _ => True
  | .read next, now => PostsMarked (next now) now
  | .write library next, _ => PostsMarked next library
  | .call _ next, _ => ∀ reply later, PostsMarked (next reply) later
  | .mark milestone next, now => Heralds milestone next ∧ PostsMarked next now

theorem Routine.Works.postsMarked {routine : Routine α} {now : Library}
    (works : Works settles scope routine now) : PostsMarked routine now := by
  induction routine generalizing now with
  | done outcome => exact trivial
  | read rest ih => exact ih now works
  | write library rest ih => exact ih works.2
  | call request rest ih => exact fun reply later => ih reply (works reply later)
  | mark milestone rest ih => exact ⟨works.1, ih works.2⟩

/-- The marks in the history of a run count the postings of destroyed object files: each
is followed by such a posting. -/
theorem Operation.postsMarked (operation : Operation) (now : Library) :
    operation.routine.PostsMarked now := by
  have reworks : operation.routine.Reworks operation.Settles fun _ => True :=
    operation.reworks fun _ _ => trivial
  exact (reworks now).postsMarked

end ReaderTrace
