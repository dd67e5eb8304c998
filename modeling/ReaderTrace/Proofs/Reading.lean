import ReaderTrace.Proofs.Inquiry
import ReaderTrace.Proofs.Loading

/-!
Whether the symbols of an object file were read, in the course of a run.

Only two operations set the flag: the setter itself, and the load of the object file,
once, when its read step has returned. What the readers of other files do, and what
clients do while the load waits, does not change it. So without the setter the flag
says for ever how the reading came out.
-/

namespace ReaderTrace

open Routine

/-! ### Who sets the flag -/

section Marks

variable {library : Library} {file : ObjectFileId}

/-- The operation is about to say whether the symbols of the object file were read. -/
def Operation.Marks (library : Library) (file : ObjectFileId) : Operation → Prop
  | .setPartialSymbolsRead other _ => other = file
  | .addSymbolFile space _ _ _ _ =>
      library.isDisposed space = false ∧ ProgramSpace.nextFile library = file
  | _ => False

theorem SymbolFile.steady_load {other : ObjectFileId} (different : other ≠ file)
    (table : TableRef) (flags : Double) :
    (load other table flags).Steady (·.partialSymbolsRead file) := by
  have reworks : (load other table flags).Reworks False
      fun concern => concern ≠ .symbolsRead file :=
    reworks_load (fun same => different (Concern.symbolsRead.inj same)) table flags
  exact reworks.steady fun _ _ same => same

theorem SymbolFile.keeps_add {space : SpaceId}
    (apart : ¬(library.isDisposed space = false ∧ ProgramSpace.nextFile library = file))
    (name : String) (quick : Option QuickId) (table : TableRef) (flags : Double) :
    (add space name quick table flags).Keeps (·.partialSymbolsRead file)
      library := by
  change Keeps _ (Routine.edit (ProgramSpace.addObjectFile space name quick) >>= _) library
  cases disposed : library.isDisposed space with
  | true =>
    have refused := ProgramSpace.apply_addObjectFile_of_disposed disposed name quick
    apply keeps_edit
    · rw [refused]
    · intro other impossible
      rw [refused] at impossible
      cases impossible
  | false =>
    have different : ProgramSpace.nextFile library ≠ file := fun same => apart ⟨disposed, same⟩
    have added := ProgramSpace.apply_addObjectFile_of_open disposed name quick
    apply keeps_edit
    · rw [added]
      exact ProgramSpace.partialSymbolsRead_withFile library space name quick file
    · intro other new
      rw [added] at new
      cases new
      exact (steady_load different table flags _).bind fun _ _ => trivial

/-- All other operations leave it as it is. -/
theorem Operation.keeps_symbolsRead {operation : Operation}
    (apart : ¬operation.Marks library file) :
    operation.routine.Keeps (·.partialSymbolsRead file) library := by
  have spares : ¬operation.Concerns (.symbolsRead file) →
      operation.routine.Keeps (·.partialSymbolsRead file) library :=
    fun other => Operation.spares (.symbolsRead file) other (fun _ _ same => same) library
  cases operation with
  | setPartialSymbolsRead other value => exact spares fun same => apart same.symm
  | addSymbolFile space name quick table flags =>
    exact (SymbolFile.keeps_add apart name quick table flags).bind fun _ _ => trivial
  | _ => exact spares nofun

end Marks

/-! ### In a run -/

/-- No client says whether the symbols of the object file were read. -/
def Rules.unmarked (file : ObjectFileId) : Rules :=
  .only fun operation => ∀ value, operation ≠ .setPartialSymbolsRead file value

theorem Rules.free_of_unmarked {file : ObjectFileId} (moment : Moment) (happening : Happening)
    (_ : Rules.unmarked file moment happening) : Rules.free moment happening :=
  fun _ _ => trivial

theorem Dialogue.rewritten {operation : Operation} {outset later : Moment}
    {exchanges : List Exchange} (reachable : Reachable .free outset)
    (dialogue : Dialogue .free operation outset exchanges later) :
    Rewritten True (outset.start operation).library later.library := by
  induction dialogue with
  | start => exact .refl
  | resume reply before asked meanwhile answers permitted ih =>
    have made := before.reachable reachable
    have resumed := Moment.rewritten_resume reply answers (meanwhile.reachable made).rewrites
    exact (ih.trans (meanwhile.rewritten made)).trans resumed.1

section Runs

variable {file : ObjectFileId} {value : Bool} {moment : Moment}

/-- While clients leave the flag to the loads, it does not change once the object file is
there, but by a call that waits. -/
theorem Meanwhile.undisturbed_unmarked {waiting outer : List Frame} {made later : Moment}
    (meanwhile : Meanwhile (.unmarked file) waiting made later)
    (reachable : Reachable .free made) (known : file.index < made.library.objectFiles.length)
    (inside : outer <:+ waiting)
    (undisturbed : Undisturbed (·.partialSymbolsRead file) value outer made) :
    Undisturbed (·.partialSymbolsRead file) value outer later := by
  apply meanwhile.undisturbed inside undisturbed
  intro moment operation passed permitted
  have knownNow : file.index < moment.library.objectFiles.length := Nat.lt_of_lt_of_le known
    ((passed.weaken Rules.free_of_unmarked).rewritten reachable).dwindles.files
  apply Operation.keeps_symbolsRead
  intro marks
  cases operation with
  | setPartialSymbolsRead other value =>
    cases marks
    exact permitted _ rfl value rfl
  | addSymbolFile =>
    obtain ⟨_, rfl⟩ := marks
    exact absurd knownNow (Nat.lt_irrefl _)
  | _ => exact marks

theorem ProgramSpace.nextFile_lt_withFile (library : Library) (space : SpaceId) (name : String)
    (quick : Option QuickId) :
    (nextFile library).index < (withFile library space name quick).objectFiles.length := by
  have length : (withFile library space name quick).objectFiles.length =
      library.objectFiles.length + 1 := List.length_append
  rw [length]
  exact Nat.lt_succ_self _

/-- A load begins when its object file has been listed. -/
theorem Moment.start_addSymbolFile_of_open {space : SpaceId}
    (opened : moment.library.isDisposed space = false) (name : String) (quick : Option QuickId)
    (table : TableRef) (flags : Double) :
    moment.start (.addSymbolFile space name quick table flags) =
      proceed (.addSymbolFile space name quick table flags) moment.pending
        ((SymbolFile.load (ProgramSpace.nextFile moment.library) table flags).bind fun _ =>
          .done (.ok (.objectFile (ProgramSpace.nextFile moment.library))))
        { moment.note (.started (.addSymbolFile space name quick table flags)) with
          library := ProgramSpace.withFile moment.library space name quick } := by
  have added := ProgramSpace.apply_addObjectFile_of_open opened name quick
  have afterEq : (moment.note (.started (.addSymbolFile space name quick table flags))).after
        (ProgramSpace.addObjectFile space name quick) =
      { moment.note (.started (.addSymbolFile space name quick table flags)) with
        library := ProgramSpace.withFile moment.library space name quick } :=
    congrArg (fun applied => World.mk (Prod.snd applied) _) added
  unfold start
  rw [Operation.routine_addSymbolFile_load, ← afterEq]
  change proceed _ _ (Routine.bind
    (.done ((ProgramSpace.addObjectFile space name quick).apply moment.library).1) _) _ = _
  rw [added]
  rfl

theorem Reachable.known_addSymbolFile (reachable : Reachable .free moment) {space : SpaceId}
    (opened : moment.library.isDisposed space = false) (name : String) (quick : Option QuickId)
    (table : TableRef) (flags : Double) :
    (ProgramSpace.nextFile moment.library).index <
      (moment.start (.addSymbolFile space name quick table flags)).library.objectFiles.length := by
  have rewrites : Rewrites True
      ((SymbolFile.load (ProgramSpace.nextFile moment.library) table flags).bind fun _ =>
        .done (.ok (Result.objectFile (ProgramSpace.nextFile moment.library)))) :=
    ((reworks_load trivial table flags).bind fun _ => reworks_done _).rewrites
  have grows := (Moment.rewritten_proceed (.addSymbolFile space name quick table flags)
    { moment.note (.started (.addSymbolFile space name quick table flags)) with
      library := ProgramSpace.withFile moment.library space name quick }
    (rewrites _) reachable.rewrites).1.dwindles.files
  rw [Moment.start_addSymbolFile_of_open opened]
  exact Nat.lt_of_lt_of_le (ProgramSpace.nextFile_lt_withFile _ space name quick) grows

/-- An object file that is not there counts as unread, and no call that waits will
change that. -/
theorem Reachable.undisturbed_of_unknown (reachable : Reachable .free moment)
    (unknown : moment.library.objectFiles.length ≤ file.index) :
    Undisturbed (·.partialSymbolsRead file) false [] moment := by
  induction reachable with
  | initial => exact ⟨rfl, [], rfl, List.forall_mem_nil _⟩
  | @start moment operation before admissible permitted ih =>
    have grows := (Moment.rewritten_start operation before.rewrites).1.dwindles.files
    have unknownBefore := Nat.le_trans grows unknown
    apply (ih unknownBefore).start
    by_cases marks : operation.Marks moment.library file
    · cases operation with
      | setPartialSymbolsRead other value =>
        cases marks
        have same : ((Edit.setPartialSymbolsRead file value).apply
            moment.library).2.partialSymbolsRead file = moment.library.partialSymbolsRead file := by
          change (moment.library.modifyObjectFile file _).partialSymbolsRead file = _
          unfold Library.modifyObjectFile
          rw [List.modify_eq_self unknownBefore]
        exact keeps_edit same fun _ _ => trivial
      | addSymbolFile space name quick table flags =>
        obtain ⟨opened, rfl⟩ := marks
        exact absurd (before.known_addSymbolFile opened name quick table flags)
          (Nat.not_lt_of_le unknown)
      | _ => exact marks.elim
    · exact Operation.keeps_symbolsRead marks
  | resume reply before waiting permitted ih =>
    have grows := (Moment.rewritten_resume reply waiting before.rewrites).1.dwindles.files
    exact (ih (Nat.le_trans grows unknown)).resume waiting List.nil_suffix reply

end Runs

/-! ### The load of a new object file -/

namespace SymbolFile

/-- A load up to the end of its read step. -/
def reading (file : ObjectFileId) (table : TableRef) (flags : Double) : Routine Unit := do
  setTable file table
  callPresent file .newInit [.objectFile file]
  callPresent file .init [.objectFile file]
  callPresent file .read [.objectFile file, .number flags]

/-- What a load does when the symbols have been read. -/
def noteRead (file : ObjectFileId) : Routine Unit := do
  Edit.setPartialSymbolsRead file true
  callPresent file .readLinetable [.objectFile file]

variable {file : ObjectFileId} {flags : Double}

theorem load_of_reads (reads : defersReading flags = false) (table : TableRef) :
    load file table flags = reading file table flags >>= fun _ => noteRead file := by
  unfold load reading noteRead
  rw [reads]
  simp only [LawfulMonad.bind_assoc]
  rfl

theorem reworks_reading {settles : Prop} {scope : Concern → Prop} (file : ObjectFileId)
    (table : TableRef) (flags : Double) : (reading file table flags).Reworks settles scope := by
  apply (reworks_setTable_reached file table).bind
  intro _
  apply (reworks_callPresent file _ _).bind
  intro _
  apply (reworks_callPresent file _ _).bind
  intro _
  exact reworks_callPresent file _ _

/-- A load that puts reading off says nothing about it. -/
theorem reworks_load_of_deferred {settles : Prop} {scope : Concern → Prop}
    (defers : defersReading flags = true) (table : TableRef) :
    (load file table flags).Reworks settles scope := by
  unfold load
  rw [defers]
  apply (reworks_setTable_reached file table).bind
  intro _
  apply (reworks_callPresent file _ _).bind
  intro _
  apply (reworks_callPresent file _ _).bind
  intro _
  exact reworks_done _

end SymbolFile

/-- Clients that give the replies of the exchanges one after another, and give up when
there are no more. -/
def Exchange.replay : Clients Unit (List Exchange)
  | _, _, [] => .error ()
  | _, _, exchange :: rest => .ok (exchange.reply, exchange.resumed.library, rest)

/-- With the replies of the exchanges the routine comes to its end. -/
def Routine.Ends {α : Type} (routine : Routine α) (begun : Library) (exchanges : List Exchange)
    (outcome : Except Raised α) : Prop :=
  ∃ left rest, routine.run Exchange.replay begun exchanges = .ok (outcome, left, rest)

section Loads

variable {file : ObjectFileId} {operation : Operation} {outer : List Frame}
  {tail : Unit → Routine Result} {reading : Routine Unit} {begun : Library}
  {exchanges : List Exchange}

/-- Where an operation stands that reads symbols before it goes on with `tail`, when the
reading began in `begun`. The flag is set when the reading has succeeded, and then
stays as it is. -/
inductive Reads (file : ObjectFileId) (operation : Operation) (outer : List Frame)
    (tail : Unit → Routine Result) (reading : Routine Unit) (begun : Library)
    (exchanges : List Exchange) : Moment → Prop
  | underway {now : World} {request : Call} {next : Reply → Routine Unit}
      (unread : now.library.partialSymbolsRead file = false)
      (works : ∀ reply, (next reply).Reworks False fun concern => concern ≠ .symbolsRead file)
      (replays : ∀ more, reading.run Exchange.replay begun (exchanges ++ more) =
        (Routine.call request next).run Exchange.replay now.library more) :
      Reads file operation outer tail reading begun exchanges
        { now.note (.called operation request) with
          pending :=
            { operation := operation, request := request
              next := fun reply => (next reply).bind tail } :: outer }
  | settled {moment : Moment} {outcome : Except Raised Unit}
      (ends : ∀ more, reading.Ends begun (exchanges ++ more) outcome)
      (undisturbed : Undisturbed (·.partialSymbolsRead file) outcome.isOk [] moment) :
      Reads file operation outer tail reading begun exchanges moment

/-- One stretch of the operation, from where `rest` is left of the reading. -/
theorem Reads.proceed {rest : Routine Unit} {world : World}
    (works : rest.Works False (fun concern => concern ≠ .symbolsRead file) world.library)
    (unread : world.library.partialSymbolsRead file = false)
    (known : file.index < world.library.objectFiles.length)
    (steady : ∀ frame ∈ outer, ∀ reply, (frame.next reply).Steady (·.partialSymbolsRead file))
    (notes : ∀ now : World, file.index < now.library.objectFiles.length →
      Undisturbed (·.partialSymbolsRead file) true []
        (Moment.proceed operation outer (tail ()) now))
    (replays : ∀ more, reading.run Exchange.replay begun (exchanges ++ more) =
      rest.run Exchange.replay world.library more) :
    Reads file operation outer tail reading begun exchanges
      (Moment.proceed operation outer (rest.bind tail) world) := by
  induction rest generalizing world with
  | done outcome =>
    have ends : ∀ more, reading.Ends begun (exchanges ++ more) outcome :=
      fun more => ⟨world.library, more, replays more⟩
    cases outcome with
    | ok value => exact .settled ends (notes world known)
    | error raised => exact .settled ends ⟨unread, outer, (List.append_nil _).symm, steady⟩
  | read next ih => exact ih world.library works unread known replays
  | write library next ih =>
    have same := works.1.spares (.symbolsRead file) (not_not_intro rfl)
    have grows := works.1.rewritten.dwindles.files
    exact @ih { world with library := library } works.2 (Eq.trans same unread)
      (Nat.lt_of_lt_of_le known grows) replays
  | call request next _ => exact .underway unread (fun reply now => works reply now) replays
  | mark milestone next ih =>
    exact @ih (world.note (.reached milestone)) works.2 unread known replays

/-- When the symbols have been read the flag is set, and the call for the line table
leaves it alone. -/
theorem SymbolFile.undisturbed_noteRead {world : World}
    (known : file.index < world.library.objectFiles.length)
    (steady : ∀ frame ∈ outer, ∀ reply, (frame.next reply).Steady (·.partialSymbolsRead file))
    (operation : Operation) (result : Result) :
    Undisturbed (·.partialSymbolsRead file) true []
      (Moment.proceed operation outer ((noteRead file).bind fun _ => .done (.ok result)) world) := by
  have noted : ((Edit.setPartialSymbolsRead file true).apply world.library).2.partialSymbolsRead
      file = true := by
    change (world.library.modifyObjectFile file _).partialSymbolsRead file = true
    unfold Library.partialSymbolsRead Library.objectFile? Library.modifyObjectFile
    rw [List.getElem?_modify_eq, List.getElem?_eq_getElem known]
    rfl
  have reworks : (callPresent file .readLinetable [.objectFile file] >>= fun _ =>
      .done (.ok result)).Reworks False fun concern => concern ≠ .symbolsRead file :=
    (reworks_callPresent file _ _).bind fun _ => reworks_done _
  rw [← List.append_nil outer]
  exact Undisturbed.proceed
    { world with library := ((Edit.setPartialSymbolsRead file true).apply world.library).2 }
    (reworks.steady (fun _ _ same => same) _) operation noted steady

end Loads

/-! ### The whole load, and after it -/

/-- The next object file will be `file`, and the space takes it. -/
structure Moment.Expects (moment : Moment) (space : SpaceId) (file : ObjectFileId) : Prop where
  reachable : Reachable .free moment
  opened : moment.library.isDisposed space = false
  new : ProgramSpace.nextFile moment.library = file

namespace Moment.Expects

variable {begun made later : Moment} {space : SpaceId} {file : ObjectFileId} {name : String}
  {quick : Option QuickId} {table : TableRef} {flags : Double} {loaded : List Exchange}

theorem undisturbed (expects : begun.Expects space file) :
    Undisturbed (·.partialSymbolsRead file) false [] begun := by
  apply expects.reachable.undisturbed_of_unknown
  rw [← expects.new]
  exact Nat.le_refl _

theorem steady (expects : begun.Expects space file) :
    ∀ frame ∈ begun.pending, ∀ reply, (frame.next reply).Steady (·.partialSymbolsRead file) := by
  obtain ⟨_, own, pendingEq, steady⟩ := expects.undisturbed
  rw [pendingEq, List.append_nil]
  exact steady

theorem unread_withFile (expects : begun.Expects space file) :
    (ProgramSpace.withFile begun.library space name quick).partialSymbolsRead file = false :=
  (ProgramSpace.partialSymbolsRead_withFile begun.library space name quick file).trans
    expects.undisturbed.same

theorem known (expects : begun.Expects space file)
    (dialogue : Dialogue .free (.addSymbolFile space name quick table flags) begun loaded made) :
    file.index < made.library.objectFiles.length := by
  have started := expects.reachable.known_addSymbolFile expects.opened name quick table flags
  rw [expects.new] at started
  exact Nat.lt_of_lt_of_le started (dialogue.rewritten expects.reachable).dwindles.files

/-- The load itself says whether the symbols were read: after its read step, if it has
one. -/
theorem reads (expects : begun.Expects space file)
    (immediate : SymbolFile.defersReading flags = false)
    (dialogue : Dialogue (.unmarked file) (.addSymbolFile space name quick table flags) begun
      loaded made) :
    Reads file (.addSymbolFile space name quick table flags) begun.pending
      (fun _ => (SymbolFile.noteRead file).bind fun _ => .done (.ok (.objectFile file)))
      (SymbolFile.reading file table flags) (ProgramSpace.withFile begun.library space name quick)
      loaded made := by
  have notes : ∀ now : World, file.index < now.library.objectFiles.length →
      Undisturbed (·.partialSymbolsRead file) true [] _ := fun now known =>
    SymbolFile.undisturbed_noteRead known expects.steady
      (.addSymbolFile space name quick table flags) (.objectFile file)
  have works : (SymbolFile.reading file table flags).Reworks False
      fun concern => concern ≠ .symbolsRead file := SymbolFile.reworks_reading file table flags
  induction dialogue with
  | start admissible permitted =>
    have listed := ProgramSpace.nextFile_lt_withFile begun.library space name quick
    rw [expects.new] at listed
    rw [Moment.start_addSymbolFile_of_open expects.opened, expects.new,
      SymbolFile.load_of_reads immediate]
    change Reads _ _ _ _ _ _ _ (Moment.proceed _ _ ((Routine.bind _ _).bind _) _)
    rw [Routine.bind_assoc]
    exact Reads.proceed (works _) expects.unread_withFile listed expects.steady notes fun _ => rfl
  | @resume exchanges made later frame reply before asked meanwhile answers permitted ih =>
    have free := before.weaken Rules.free_of_unmarked
    have reached := free.reachable expects.reachable
    have known := expects.known free
    have knownLater := Nat.lt_of_lt_of_le known
      ((meanwhile.weaken Rules.free_of_unmarked).rewritten reached).dwindles.files
    cases ih with
    | underway unreadMade works replays =>
      cases asked
      have kept := meanwhile.undisturbed_unmarked reached known (List.suffix_refl _)
        ⟨unreadMade, [], rfl, List.forall_mem_nil _⟩
      refine Reads.proceed (works reply _) kept.same knownLater expects.steady notes fun more => ?_
      rw [List.append_assoc]
      exact replays _
    | settled ends undisturbed =>
      have kept := meanwhile.undisturbed_unmarked reached known List.nil_suffix undisturbed
      refine .settled (fun more => ?_) (kept.resume answers List.nil_suffix reply)
      rw [List.append_assoc]
      exact ends _

/-- A load that puts reading off leaves the flag alone. -/
theorem undisturbed_of_deferred (expects : begun.Expects space file)
    (defers : SymbolFile.defersReading flags = true)
    (dialogue : Dialogue (.unmarked file) (.addSymbolFile space name quick table flags) begun
      loaded made) :
    Undisturbed (·.partialSymbolsRead file) false [] made := by
  induction dialogue with
  | start admissible permitted =>
    have reworks : (SymbolFile.load file table flags >>= fun _ =>
        .done (.ok (Result.objectFile file))).Reworks False
          fun concern => concern ≠ .symbolsRead file :=
      (SymbolFile.reworks_load_of_deferred defers table).bind fun _ => reworks_done _
    rw [Moment.start_addSymbolFile_of_open expects.opened, expects.new,
      ← List.append_nil begun.pending]
    exact Undisturbed.proceed
      { begun.note (.started (.addSymbolFile space name quick table flags)) with
        library := ProgramSpace.withFile begun.library space name quick }
      (reworks.steady (fun _ _ same => same) _) _ expects.unread_withFile expects.steady
  | resume reply before asked meanwhile answers permitted ih =>
    have free := before.weaken Rules.free_of_unmarked
    have kept := meanwhile.undisturbed_unmarked (free.reachable expects.reachable)
      (expects.known free) List.nil_suffix ih
    exact kept.resume answers List.nil_suffix reply

/-- What the load has left in the flag stays. -/
theorem lasts (expects : begun.Expects space file)
    (dialogue : Dialogue (.unmarked file) (.addSymbolFile space name quick table flags) begun
      loaded made) (meanwhile : Meanwhile (.unmarked file) [] made later) {value : Bool}
    (undisturbed : Undisturbed (·.partialSymbolsRead file) value [] made) :
    later.library.partialSymbolsRead file = value := by
  have free := dialogue.weaken Rules.free_of_unmarked
  exact (meanwhile.undisturbed_unmarked (free.reachable expects.reachable) (expects.known free)
    List.nil_suffix undisturbed).same

end Moment.Expects

/-- The object file was added as a symbol file, with the exchanges `loaded` so far, and no
client has said itself whether its symbols were read. -/
structure Added (space : SpaceId) (name : String) (quick : Option QuickId) (table : TableRef)
    (flags : Double) (begun : Moment) (loaded : List Exchange) (file : ObjectFileId)
    (later : Moment) : Prop where
  expects : begun.Expects space file
  load : ∃ made,
    Dialogue (.unmarked file) (.addSymbolFile space name quick table flags) begun loaded made ∧
      Meanwhile (.unmarked file) [] made later

namespace Added

variable {space : SpaceId} {name : String} {quick : Option QuickId} {table : TableRef}
  {flags : Double} {begun later : Moment} {loaded : List Exchange} {file : ObjectFileId}

/-- Reading was put off, so the symbols were not read. -/
theorem unread (added : Added space name quick table flags begun loaded file later)
    (defers : SymbolFile.defersReading flags = true) :
    later.library.partialSymbolsRead file = false := by
  obtain ⟨expects, made, dialogue, meanwhile⟩ := added
  exact expects.lasts dialogue meanwhile (expects.undisturbed_of_deferred defers dialogue)

/-- Once reading has ended the flag says how. -/
theorem read_eq (added : Added space name quick table flags begun loaded file later)
    (immediate : SymbolFile.defersReading flags = false) {outcome : Except Raised Unit}
    (ends : (SymbolFile.reading file table flags).Ends
      (ProgramSpace.withFile begun.library space name quick) loaded outcome) :
    later.library.partialSymbolsRead file = outcome.isOk := by
  obtain ⟨expects, made, dialogue, meanwhile⟩ := added
  obtain ⟨left, rest, ended⟩ := ends
  cases expects.reads immediate dialogue with
  | underway unread works replays =>
    have waits := replays []
    rw [List.append_nil, ended] at waits
    cases waits
  | settled ends undisturbed =>
    obtain ⟨_, _, same⟩ := ends []
    rw [List.append_nil, ended] at same
    cases same
    exact expects.lasts dialogue meanwhile undisturbed

end Added

/-- The question for symbols, in any run. Without quick functions the answer is no, and
nothing is called. A reader that is asked for lazy reading and says yes is not asked
anything else; in all other cases what it says about its symbols is the answer. The
record is written last, if the debug setting is on and no call throws. An object file
that was loaded is not asked for lazy reading once its read step has returned, whatever
becomes of the line table. It is asked first, if it can tell, when reading was put off
or was broken off. -/
theorem Reachable.lazy_symbols_protocol {file : ObjectFileId} {outset later : Moment}
    {exchanges : List Exchange} (reachable : Reachable .free outset)
    (dialogue : Dialogue .free (.hasPartialSymbols file) outset exchanges later) :
    ((∀ exchange ∈ exchanges, ¬exchange.request.IsRecord → exchange.Discreet) →
      Answering file outset exchanges later) ∧
    ∀ (space : SpaceId) (name : String) (quick : Option QuickId) (table : TableRef)
      (flags : Double) (begun : Moment) (loaded : List Exchange),
      Added space name quick table flags begun loaded file outset →
      (flags.truncate / 16 % 2 ≠ 1 →
        (SymbolFile.reading file table flags).Ends
          (ProgramSpace.withFile begun.library space name quick) loaded (.ok ()) →
        ∀ functions arguments,
          .quick functions .canLazilyReadSymbols arguments ∉ outset.requests exchanges later) ∧
      (flags.truncate / 16 % 2 = 1 ∨ (∃ error, (SymbolFile.reading file table flags).Ends
          (ProgramSpace.withFile begun.library space name quick) loaded (.error error)) →
        ∀ functions, outset.library.quickOf? file = some functions →
          outset.library.answersLazyReading functions = true →
          (outset.requests exchanges later).head? =
            some (.quick functions .canLazilyReadSymbols [])) := by
  refine ⟨dialogue.answering reachable, ?_⟩
  intro space name quick table flags begun loaded added
  constructor
  · intro immediate ends functions arguments asked
    have reads : SymbolFile.defersReading flags = false :=
      eq_false_of_ne_true (mt (SymbolFile.defersReading_iff flags).mp immediate)
    have read : outset.library.partialSymbolsRead file = true := added.read_eq reads ends
    rcases dialogue.requests_of_read reachable read _ asked with ⟨_, other⟩ | record
    · cases other
    · exact record
  · intro unread functions quickEq answers
    have flag : outset.library.partialSymbolsRead file = false := by
      cases defers : SymbolFile.defersReading flags with
      | true => exact added.unread defers
      | false =>
        rcases unread with bit | ⟨error, ends⟩
        · rw [(SymbolFile.defersReading_iff flags).mpr bit] at defers
          cases defers
        · exact added.read_eq defers ends
    exact dialogue.requests_of_unread reachable quickEq flag answers

/-- A table with the functions that initialize, and quick functions that can tell whether
symbols can be read when they are needed. -/
def Moment.outfitted : Moment :=
  ((Moment.initial.start (.createSpace none)).start (.newReaderTable .initializing)).start
    (.newQuickFunctions { answersLazyReading := true })

theorem expects_outfitted : Moment.outfitted.Expects { index := 0 } { index := 0 } := by
  have may : ∀ {moment : Moment} {operation : Operation},
      Rules.free moment (.started operation) := fun _ _ => trivial
  have created := Reachable.start (.createSpace none) .initial trivial may
  have made := Reachable.start (.newReaderTable .initializing) created (fun _ found => by
    cases found) may
  exact ⟨.start (.newQuickFunctions { answersLazyReading := true }) made trivial may, rfl, rfl⟩

/-- Both functions return and there is nothing to read: the reader is asked for symbols
and the answer is recorded. When the first function throws, the reader is asked whether
the symbols can still be read. -/
theorem lazy_symbols_protocol_outfitted :
    (∃ loaded outset exchanges later,
      Added { index := 0 } "a.out" (some { index := 0 }) (.reader { index := 0 }) .zero
        Moment.outfitted loaded { index := 0 } outset ∧ loaded.length = 2 ∧
      Dialogue .free (.hasPartialSymbols { index := 0 }) outset exchanges later ∧
      Answering { index := 0 } outset exchanges later ∧
      (exchanges.map fun exchange => exchange.request) =
        [.quick { index := 0 } .hasSymbols [.objectFile { index := 0 }],
          .write .console "qf->hasSymbols (a.out) = true"] ∧
      ∀ functions arguments,
        .quick functions .canLazilyReadSymbols arguments ∉ outset.requests exchanges later) ∧
    ∃ loaded outset exchanges later,
      Added { index := 0 } "a.out" (some { index := 0 }) (.reader { index := 0 }) .zero
        Moment.outfitted loaded { index := 0 } outset ∧ loaded.length = 1 ∧
      Dialogue .free (.hasPartialSymbols { index := 0 }) outset exchanges later ∧
      (outset.requests exchanges later).head? =
        some (.quick { index := 0 } .canLazilyReadSymbols []) := by
  have may : ∀ {moment : Moment} {happening : Happening}, Rules.free moment happening :=
    fun _ _ => trivial
  have replies : ∀ {moment : Moment} {operation : Operation} {request : Call} {reply : Reply},
      Rules.unmarked { index := 0 } moment (.answered operation request reply) := by
    intro _ _ _ _ _ impossible
    cases impossible
  have starts : ∀ {moment : Moment} {operation : Operation},
      (∀ value, operation ≠ .setPartialSymbolsRead { index := 0 } value) →
      Rules.unmarked { index := 0 } moment (.started operation) := by
    rintro moment operation other _ ⟨⟩
    exact other
  have loading : Dialogue (.unmarked { index := 0 })
      (.addSymbolFile { index := 0 } "a.out" (some { index := 0 }) (.reader { index := 0 }) .zero)
      Moment.outfitted [] _ := .start Nat.zero_lt_one (starts nofun)
  have inquiring : ∀ {outset : Moment}, Reachable .free outset →
      Dialogue .free (.hasPartialSymbols { index := 0 }) outset [] _ := fun _ => .start trivial may
  have immediate : Double.zero.truncate / 16 % 2 ≠ 1 := by decide
  constructor
  · have initialized := loading.resume (.returned .absent) rfl .refl rfl replies
    have loaded := initialized.resume (.returned .absent) rfl .refl rfl replies
    have added : Added { index := 0 } "a.out" (some { index := 0 }) (.reader { index := 0 }) .zero
        Moment.outfitted _ { index := 0 } _ :=
      ⟨expects_outfitted, _, loaded, .start (.setDebug true) .refl trivial (starts nofun)⟩
    have reachable : Reachable .free _ := .start (.setDebug true)
      ((loaded.weaken Rules.free_of_unmarked).reachable expects_outfitted.reachable) trivial may
    have asked := inquiring reachable
    have told := asked.resume (.returned (.boolean true)) rfl .refl rfl may
    have answered := told.resume (.returned .absent) rfl .refl rfl may
    have protocol := reachable.lazy_symbols_protocol answered
    refine ⟨_, _, _, _, added, rfl, answered, protocol.1 ?_, by decide +kernel, ?_⟩
    · intro exchange member quick
      simp only [List.nil_append, List.cons_append, List.mem_cons, List.not_mem_nil, or_false]
        at member
      rcases member with rfl | rfl
      · exact ⟨rfl, rfl⟩
      · exact absurd trivial quick
    · exact (protocol.2 _ _ _ _ _ _ _ added).1 immediate ⟨_, _, rfl⟩
  · have broken := loading.resume (.thrown .null) rfl .refl rfl replies
    have added : Added { index := 0 } "a.out" (some { index := 0 }) (.reader { index := 0 }) .zero
        Moment.outfitted _ { index := 0 } _ := ⟨expects_outfitted, _, broken, .refl⟩
    have reachable := (broken.weaken Rules.free_of_unmarked).reachable expects_outfitted.reachable
    have asked := inquiring reachable
    have protocol := reachable.lazy_symbols_protocol asked
    refine ⟨_, _, _, _, added, rfl, asked, ?_⟩
    exact (protocol.2 _ _ _ _ _ _ _ added).2 (.inr ⟨_, _, _, rfl⟩) _ rfl rfl

end ReaderTrace
