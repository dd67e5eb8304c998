import ReaderTrace.Proofs.Forwarding
import ReaderTrace.Proofs.Outcome
import ReaderTrace.Proofs.Scope

/-!
How the symbols of a new object file are read.

The functions of the reader are called in stages, and each stage looks its function up
in the table that is active when it is reached. What a stage finds there depends on
what clients have done until then, so the events of a load are described stage by
stage, from the library in which each of them begins.

As for single calls, the description is for streams that write.
-/

namespace ReaderTrace

open Routine

/-! ### The stages of a load -/

/-- A stage calls one function of the reader, or notes that symbols were read. -/
inductive Stage
  | call (slot : Slot) (arguments : List Value)
  | noteRead

namespace SymbolFile

/-- Bit 4 of the flags puts reading off. The flags are converted to an integer
for this test and are passed on unconverted. -/
def stages (file : ObjectFileId) (flags : Double) : List Stage :=
  [.call .newInit [.objectFile file], .call .init [.objectFile file]] ++
    if flags.truncate / 16 % 2 = 1 then []
    else
      [.call .read [.objectFile file, .number flags], .noteRead,
        .call .readLinetable [.objectFile file]]

theorem defersReading_iff (flags : Double) :
    defersReading flags = true ↔ flags.truncate / 16 % 2 = 1 := by
  have bit : defersReading flags = (flags.truncate % 2 ^ 32).toNat.testBit 4 := by
    unfold defersReading Double.toWord
    rw [BitVec.getLsbD, BitVec.toNat_ofInt]
    rfl
  rw [bit, Nat.testBit_eq_decide_div_mod_eq, decide_eq_true_eq]
  omega

def perform (file : ObjectFileId) : Stage → Routine Unit
  | .call slot arguments => callPresent file slot arguments
  | .noteRead => Routine.edit (Edit.setPartialSymbolsRead file true)

/-- A load sets the table and goes through the stages. -/
theorem load_eq (file : ObjectFileId) (table : TableRef) (flags : Double) :
    load file table flags =
      setTable file table >>= fun _ => (stages file flags).forM (perform file) := by
  unfold load stages
  by_cases deferred : flags.truncate / 16 % 2 = 1
  · rw [if_pos deferred, if_pos ((defersReading_iff flags).mpr deferred)]
    rfl
  · rw [if_neg deferred, if_neg fun defers => deferred ((defersReading_iff flags).mp defers)]
    have last : callPresent file .readLinetable [.objectFile file] =
        (callPresent file .readLinetable [.objectFile file] >>= fun _ => pure ()) :=
      (Routine.bind_done _).symm
    rw [last]
    rfl

end SymbolFile

/-- The operation that adds a symbol file, with the load in sight. -/
theorem Operation.routine_addSymbolFile_load (space : SpaceId) (name : String)
    (quick : Option QuickId) (table : TableRef) (flags : Double) :
    (Operation.addSymbolFile space name quick table flags).routine =
      Routine.edit (ProgramSpace.addObjectFile space name quick) >>= fun file =>
        SymbolFile.load file table flags >>= fun _ => pure (.objectFile file) := by
  change (Routine.edit (ProgramSpace.addObjectFile space name quick) >>= fun file =>
    SymbolFile.load file table flags >>= fun _ => pure file) >>= (fun file =>
      pure (Result.objectFile file)) = _
  simp only [LawfulMonad.bind_assoc, LawfulMonad.pure_bind]

/-- The same with the stages of the load. -/
theorem Operation.routine_addSymbolFile (space : SpaceId) (name : String) (quick : Option QuickId)
    (table : TableRef) (flags : Double) :
    (Operation.addSymbolFile space name quick table flags).routine =
      Routine.edit (ProgramSpace.addObjectFile space name quick) >>= fun file =>
        SymbolFile.setTable file table >>= fun _ =>
          (SymbolFile.stages file flags).forM (SymbolFile.perform file) >>= fun _ =>
            pure (.objectFile file) := by
  rw [routine_addSymbolFile_load]
  simp only [LawfulMonad.bind_assoc, SymbolFile.load_eq]

/-! ### The events of a load -/

/-- Where a sequence of stages is: it asks, or it has ended and has left a library. -/
inductive Point
  | asks (asked : Asked)
  | ends (outcome : Except Raised Unit) (finish : Library)

/-- From the library `begun` on, the stages have had the exchanges and have come to
the point. A stage whose function is missing from the table that is active then is
passed over, and what a function throws ends the sequence. -/
inductive Loads (file : ObjectFileId) : List Stage → Library → List Exchange → Point → Prop
  | finished (begun : Library) : Loads file [] begun [] (.ends (.ok ()) begun)
  | absent {slot : Slot} {arguments : List Value} {rest : List Stage} {begun : Library}
      {table : TableRef} {exchanges : List Exchange} {point : Point}
      (active : begun.tableOf? file = some table) (missing : begun.function? table slot = none)
      (onward : Loads file rest begun exchanges point) :
      Loads file (.call slot arguments :: rest) begun exchanges point
  | waiting {slot : Slot} {arguments : List Value} {rest : List Stage} {begun : Library}
      {table : TableRef} {function : TableFunction} {exchanges : List Exchange} {asked : Asked}
      (active : begun.tableOf? file = some table)
      (present : begun.function? table slot = some function)
      (awaits : function.Awaits (some (.table table)) arguments begun exchanges asked) :
      Loads file (.call slot arguments :: rest) begun exchanges (.asks asked)
  | raised {slot : Slot} {arguments : List Value} {rest : List Stage} {begun finish : Library}
      {table : TableRef} {function : TableFunction} {exchanges : List Exchange} {error : Raised}
      (active : begun.tableOf? file = some table)
      (present : begun.function? table slot = some function)
      (performs : function.Performs (some (.table table)) arguments begun exchanges
        (.error error) finish) :
      Loads file (.call slot arguments :: rest) begun exchanges (.ends (.error error) finish)
  | returned {slot : Slot} {arguments : List Value} {rest : List Stage} {begun middle : Library}
      {table : TableRef} {function : TableFunction} {exchanges more : List Exchange}
      {value : Value} {point : Point}
      (active : begun.tableOf? file = some table)
      (present : begun.function? table slot = some function)
      (performs : function.Performs (some (.table table)) arguments begun exchanges
        (.ok value) middle)
      (onward : Loads file rest middle more point) :
      Loads file (.call slot arguments :: rest) begun (exchanges ++ more) point
  | noted {rest : List Stage} {begun : Library} {exchanges : List Exchange} {point : Point}
      (onward : Loads file rest
        (begun.modifyObjectFile file fun file => { file with partialSymbolsRead := true })
        exchanges point) :
      Loads file (.noteRead :: rest) begun exchanges point

/-! ### Object files keep having a table -/

section Tabled

variable {library after : Library} {file : ObjectFileId}

theorem Library.tabled_of_kept {other : ObjectFileId} {change : ObjectFile → ObjectFile}
    (kept : ∀ record, (change record).table = record.table)
    (tabled : (library.tableOf? file).isSome = true) :
    ((library.modifyObjectFile other change).tableOf? file).isSome = true := by
  rw [library.tableOf?_of_kept kept]
  exact tabled

theorem Edited.tabled (edited : Edited library after)
    (tabled : (library.tableOf? file).isSome = true) : (after.tableOf? file).isSome = true := by
  cases edited with
  | fileAdded space name quick opened =>
    rw [ProgramSpace.tableOf?_withFile]
    exact tabled
  | fileDetached other =>
    change ((library.modifyObjectFile other _).tableOf? file).isSome = true
    exact Library.tabled_of_kept (fun _ => rfl) tabled
  | symbolsRead other value =>
    change ((library.modifyObjectFile other _).tableOf? file).isSome = true
    exact Library.tabled_of_kept (fun _ => rfl) tabled
  | tableAssigned other table attached =>
    by_cases same : file = other
    · subst same
      rw [library.tableOf?_withTable_self table attached]
      rfl
    · rw [library.tableOf?_withTable_other table same]
      exact tabled
  | _ => exact tabled

theorem Rewritten.tabled {settles : Prop} (rewritten : Rewritten settles library after)
    (tabled : (library.tableOf? file).isSome = true) : (after.tableOf? file).isSome = true := by
  induction rewritten with
  | refl => exact tabled
  | tail _ step ih =>
    rcases step with edited | ⟨_, settling⟩
    · exact edited.tabled ih
    · cases settling <;> exact ih

end Tabled

/-! ### The stages have these events -/

section Stages

variable {during : List Exchange → World → Call → Prop} {exchanges : List Exchange} {now : World}
  {file : ObjectFileId} {table : TableRef} {slot : Slot} {arguments : List Value}

theorem conducts_callPresent_absent {usual : Exchange → Prop}
    (active : now.library.tableOf? file = some table)
    (missing : now.library.function? table slot = none) :
    ConductsWhile usual during (SymbolFile.callPresent file slot arguments) exchanges now
      fun outcome after later => outcome = .ok () ∧ after = exchanges ∧ later = now := by
  apply conducts_activeTable active
  apply conducts_library
  rw [missing]
  exact fun _ => ⟨rfl, rfl, rfl⟩

theorem conducts_callPresent_present {function : TableFunction}
    (active : now.library.tableOf? file = some table)
    (present : now.library.function? table slot = some function)
    (allows : ∀ own later request,
      function.Awaits (some (.table table)) arguments now.library own
        { library := World.library later, request := request } →
      during (exchanges ++ own) later request) :
    ConductsWhile Exchange.Smooth during (SymbolFile.callPresent file slot arguments) exchanges now
      fun outcome after later => (∃ returned own, outcome = returned.map (fun _ => ()) ∧
        after = exchanges ++ own ∧
        function.Performs (some (.table table)) arguments now.library own returned later.library) ∧
        Rewritten True now.library later.library := by
  apply ConductsWhile.rewritten _ ((reworks_callPresent file slot arguments).rewrites now.library)
  apply conducts_activeTable active
  apply conducts_library
  rw [present]
  have allowed : ∀ own later request,
      ((∀ exchange ∈ own, Exchange.Smooth exchange) →
        function.Awaits (some (.table table)) arguments now.library own
          { library := World.library later, request := request }) →
      (∀ exchange ∈ exchanges ++ own, Exchange.Smooth exchange) →
      during (exchanges ++ own) later request := by
    intro own later request awaits smooth
    exact allows own later request (awaits fun exchange member =>
      smooth exchange (List.mem_append_right _ member))
  change Conducts _ (function.invoke (some (.table table)) arguments >>= fun _ => pure ())
    exchanges now _
  apply (conducts_performs function (some (.table table)) arguments allowed).bind
  · intro value after later ⟨own, afterEq, performs⟩ smooth
    refine ⟨.ok value, own, rfl, afterEq, performs fun exchange member => ?_⟩
    exact smooth exchange (afterEq ▸ List.mem_append_right _ member)
  · intro error after later ⟨own, afterEq, performs⟩ smooth
    refine ⟨.error error, own, rfl, afterEq, performs fun exchange member => ?_⟩
    exact smooth exchange (afterEq ▸ List.mem_append_right _ member)

/-- The stages one after another, for an object file that has a table. -/
theorem conducts_stages (stages : List Stage) (tabled : (now.library.tableOf? file).isSome = true)
    (allows : ∀ own later request,
      Loads file stages now.library own
        (.asks { library := World.library later, request := request }) →
      during (exchanges ++ own) later request) :
    ConductsWhile Exchange.Smooth during (stages.forM (SymbolFile.perform file)) exchanges now
      fun outcome after later => ∃ own, after = exchanges ++ own ∧
        Loads file stages now.library own (.ends outcome later.library) := by
  induction stages generalizing exchanges now with
  | nil => exact fun _ => ⟨[], (List.append_nil _).symm, .finished now.library⟩
  | cons stage rest ih =>
    cases stage with
    | noteRead =>
      change ConductsWhile _ _ (Routine.edit (Edit.setPartialSymbolsRead file true) >>= fun _ =>
        rest.forM (SymbolFile.perform file)) exchanges now _
      apply conductsWhile_edit
      · intro _ _
        have still : ((now.after (Edit.setPartialSymbolsRead file true)).library.tableOf?
            file).isSome = true := (Edited.symbolsRead file true).tabled tabled
        apply (ih still fun own later request loads => allows own later request (.noted loads)).mono
        intro outcome after later ⟨own, afterEq, loads⟩
        exact ⟨own, afterEq, .noted loads⟩
      · intro error failed
        cases failed
    | call slot arguments =>
      obtain ⟨table, active⟩ := Option.isSome_iff_exists.mp tabled
      change ConductsWhile _ _ (SymbolFile.callPresent file slot arguments >>= fun _ =>
        rest.forM (SymbolFile.perform file)) exchanges now _
      cases found : now.library.function? table slot with
      | none =>
        apply (conducts_callPresent_absent active found).bind
        · rintro _ _ _ ⟨_, rfl, rfl⟩
          apply (ih tabled fun own later request loads =>
            allows own later request (.absent active found loads)).mono
          intro outcome after later ⟨own, afterEq, loads⟩
          exact ⟨own, afterEq, .absent active found loads⟩
        · rintro error _ _ ⟨impossible, _⟩
          cases impossible
      | some function =>
        apply (conducts_callPresent_present active found fun own later request awaits =>
          allows own later request (.waiting active found awaits)).bind
        · rintro _ _ middle ⟨⟨returned, called, returnedEq, rfl, performs⟩, rewritten⟩
          cases returned with
          | error error => cases returnedEq
          | ok value =>
            have onward := @ih (exchanges ++ called) middle (rewritten.tabled tabled)
            have allowed : ∀ own later request,
                Loads file rest middle.library own
                  (.asks { library := World.library later, request := request }) →
                during (exchanges ++ called ++ own) later request := by
              intro own later request loads
              rw [List.append_assoc]
              exact allows _ later request (.returned active found performs loads)
            apply (onward allowed).mono
            intro outcome after later ⟨own, afterEq, loads⟩
            rw [List.append_assoc] at afterEq
            exact ⟨_, afterEq, .returned active found performs loads⟩
        · rintro error _ finish ⟨⟨returned, called, returnedEq, rfl, performs⟩, _⟩
          cases returned with
          | ok value => cases returnedEq
          | error raised =>
            cases returnedEq
            exact ⟨called, rfl, .raised active found performs⟩

end Stages

/-! ### The new object file -/

/-- The new object file is the last one of its space and is listed nowhere else. The
gated setter has given it its table, and its symbols do not count as read. -/
structure Introduced (outset : Moment) (space : SpaceId) (name : String) (quick : Option QuickId)
    (table : TableRef) (flags : Double) (begun : World) : Prop where
  owned : begun.library.owned space =
    outset.library.owned space ++ [ProgramSpace.nextFile outset.library]
  others : ∀ other, other ≠ space → begun.library.owned other = outset.library.owned other
  record : ∃ active,
    begun.library.tableOf? (ProgramSpace.nextFile outset.library) = some active ∧
    begun.library.objectFile? (ProgramSpace.nextFile outset.library) =
      some { name := name, quick := quick, table := some active, partialSymbolsRead := false
             attached := true }
  set : (Logging.setTable (ProgramSpace.nextFile outset.library) table).apply
      (ProgramSpace.withFile outset.library space name quick) = (.ok (), begun.library)
  gated :
    if outset.library.debug then
      (ProgramSpace.withFile outset.library space name quick).Wrapped begun.library
        (ProgramSpace.nextFile outset.library) table
    else
      (ProgramSpace.withFile outset.library space name quick).Unwrapped begun.library
        (ProgramSpace.nextFile outset.library) table
  history : begun.history = outset.history ++
    [.started (.addSymbolFile space name quick table flags),
      .reached (.tableSet (ProgramSpace.nextFile outset.library) table)]

/-- The world in which the stages begin. -/
def Moment.introducing (outset : Moment) (space : SpaceId) (name : String) (quick : Option QuickId)
    (table : TableRef) (flags : Double) : World :=
  (((outset.note (.started (.addSymbolFile space name quick table flags))).after
    (ProgramSpace.addObjectFile space name quick)).after
      (Logging.setTable (ProgramSpace.nextFile outset.library) table)).note
        (.reached (.tableSet (ProgramSpace.nextFile outset.library) table))

section Introduction

variable {outset : Moment} {space : SpaceId}

/-- The setter does not refuse a table for a new object file. -/
theorem Reachable.setTable_added (reachable : Reachable .free outset)
    (opened : outset.library.isDisposed space = false) (name : String) (quick : Option QuickId)
    (table : TableRef) :
    (Logging.setTable (ProgramSpace.nextFile outset.library) table).apply
        (ProgramSpace.withFile outset.library space name quick) =
      (.ok (), Logging.reset (ProgramSpace.withFile outset.library space name quick)
        (ProgramSpace.nextFile outset.library) table) := by
  have applied := ProgramSpace.apply_addObjectFile_of_open opened name quick
  have sound : Sound (ProgramSpace.withFile outset.library space name quick) := by
    have added := Begun.sound (reachable.begun_free.tail (.fileAdded space name quick opened))
    change Sound ((ProgramSpace.addObjectFile space name quick).apply outset.library).2 at added
    rw [applied] at added
    exact added
  have listed : (ProgramSpace.withFile outset.library space name quick).Lists
      (ProgramSpace.nextFile outset.library) := by
    refine ⟨space, ?_⟩
    rw [ProgramSpace.owned_withFile outset.library space name quick opened, if_pos rfl]
    exact List.mem_append_right _ (List.mem_singleton.mpr rfl)
  have clean : (ProgramSpace.withFile outset.library space name quick).debugDataOf?
      (ProgramSpace.nextFile outset.library) = none := by
    cases entry : (ProgramSpace.withFile outset.library space name quick).debugDataOf?
        (ProgramSpace.nextFile outset.library) with
    | none => rfl
    | some data =>
      have active := sound.layer.isSome_tableOf? entry
      rw [ProgramSpace.tableOf?_withFile] at active
      exact absurd (outset.library.lt_of_isSome_tableOf? active) (Nat.lt_irrefl _)
  rw [sound.apply_setTable_of_live listed table, if_neg]
  rw [clean]
  exact fun refused => Bool.false_ne_true refused.1

theorem Reachable.library_introducing (reachable : Reachable .free outset)
    (opened : outset.library.isDisposed space = false) (name : String) (quick : Option QuickId)
    (table : TableRef) (flags : Double) :
    (outset.introducing space name quick table flags).library =
      Logging.reset (ProgramSpace.withFile outset.library space name quick)
        (ProgramSpace.nextFile outset.library) table := by
  change ((Logging.setTable (ProgramSpace.nextFile outset.library) table).apply
    ((ProgramSpace.addObjectFile space name quick).apply outset.library).2).2 = _
  rw [ProgramSpace.apply_addObjectFile_of_open opened,
    reachable.setTable_added opened name quick table]

/-- Whatever table the setter gives to a new object file, nothing else of its record
is changed. -/
theorem ProgramSpace.objectFile?_reset_withFile {library : Library} {name : String}
    {quick : Option QuickId} {table active : TableRef}
    (activeEq : (Logging.reset (withFile library space name quick) (nextFile library)
      table).tableOf? (nextFile library) = some active) :
    (Logging.reset (withFile library space name quick) (nextFile library) table).objectFile?
        (nextFile library) =
      some { name := name, quick := quick, table := some active, partialSymbolsRead := false
             attached := true } := by
  have recordEq := Library.objectFile?_bare
    (Logging.reset (withFile library space name quick) (nextFile library) table) (nextFile library)
  rw [Logging.bare_reset, Library.objectFile?_bare, objectFile?_withFile_self] at recordEq
  obtain ⟨⟨_, _, _, _, _⟩, found, bareRecord⟩ := Option.map_eq_some_iff.mp recordEq.symm
  unfold Library.tableOf? at activeEq
  rw [found] at activeEq ⊢
  cases bareRecord
  cases activeEq
  rfl

theorem Reachable.introduced (reachable : Reachable .free outset)
    (opened : outset.library.isDisposed space = false) (name : String) (quick : Option QuickId)
    (table : TableRef) (flags : Double) :
    Introduced outset space name quick table flags
      (outset.introducing space name quick table flags) := by
  have set := reachable.setTable_added opened name quick table
  have libraryEq := reachable.library_introducing opened name quick table flags
  have bareEq := Logging.bare_reset (ProgramSpace.withFile outset.library space name quick)
    (ProgramSpace.nextFile outset.library) table
  have attached := ProgramSpace.isAttached_withFile_self outset.library space name quick
  have gated :
      if outset.library.debug then
        (ProgramSpace.withFile outset.library space name quick).Wrapped
          (outset.introducing space name quick table flags).library
          (ProgramSpace.nextFile outset.library) table
      else
        (ProgramSpace.withFile outset.library space name quick).Unwrapped
          (outset.introducing space name quick table flags).library
          (ProgramSpace.nextFile outset.library) table := by
    rw [libraryEq]
    cases debug : outset.library.debug with
    | true => exact Library.wrapped_reset table attached debug
    | false => exact Library.unwrapped_reset table attached debug
  -- The lists of the spaces are part of the bare library, which the setter leaves alone.
  have ownedEq : ∀ other, (outset.introducing space name quick table flags).library.owned other =
      if other = space then outset.library.owned space ++ [ProgramSpace.nextFile outset.library]
      else outset.library.owned other := by
    intro other
    rw [libraryEq, ← Library.owned_bare, bareEq, Library.owned_bare]
    exact ProgramSpace.owned_withFile outset.library other name quick opened
  have active : ∃ active, (outset.introducing space name quick table flags).library.tableOf?
      (ProgramSpace.nextFile outset.library) = some active := by
    split at gated
    · exact ⟨_, Library.Wrapped.active gated⟩
    · exact ⟨_, Library.Unwrapped.active gated⟩
  constructor
  case owned => rw [ownedEq, if_pos rfl]
  case others =>
    intro other different
    rw [ownedEq, if_neg different]
  case record =>
    obtain ⟨active, activeEq⟩ := active
    refine ⟨active, activeEq, ?_⟩
    rw [libraryEq] at activeEq ⊢
    exact ProgramSpace.objectFile?_reset_withFile activeEq
  case set =>
    rw [libraryEq]
    exact set
  case gated => exact gated
  case history => exact List.append_assoc ..

end Introduction

/-! ### The whole load -/

section Whole

variable {outset : Moment} {space : SpaceId}

/-- Reading symbols does not touch the lists of object files. -/
theorem keeps_stages (file : ObjectFileId) (stages : List Stage) :
    (stages.forM (SymbolFile.perform file)).Steady fun library => library.owned space := by
  have reworks : (stages.forM (SymbolFile.perform file)).Reworks False
      fun concern => concern ≠ .files space := by
    apply reworks_forM
    intro stage
    cases stage with
    | call slot arguments => exact reworks_callPresent file slot arguments
    | noteRead => exact reworks_edit (reworks_setPartialSymbolsRead nofun true)
  exact reworks.steady fun _ _ same => same

/-- Where a load that began in `begun` stands: the stages have come to the point. As
long as clients leave the list of the space alone, the object file stays its last one. -/
def Underload (outset : Moment) (space : SpaceId) (flags : Double) (begun : Library)
    (exchanges : List Exchange) (now : Library) (point : Point) : Prop :=
  Loads (ProgramSpace.nextFile outset.library)
    (SymbolFile.stages (ProgramSpace.nextFile outset.library) flags) begun exchanges point ∧
  ((∀ exchange ∈ exchanges, exchange.Spares fun library => library.owned space) →
    now.owned space = outset.library.owned space ++ [ProgramSpace.nextFile outset.library])

theorem conducts_load {name : String} {quick : Option QuickId} {table : TableRef} {flags : Double}
    {begun : World} (introduced : Introduced outset space name quick table flags begun) :
    ConductsWhile Exchange.Smooth
      (fun exchanges now request => Underload outset space flags begun.library exchanges
        now.library (.asks { library := now.library, request := request }))
      ((SymbolFile.stages (ProgramSpace.nextFile outset.library) flags).forM
        (SymbolFile.perform (ProgramSpace.nextFile outset.library))) [] begun
      fun outcome exchanges now => Underload outset space flags begun.library exchanges
        now.library (.ends outcome now.library) := by
  have tabled : (begun.library.tableOf? (ProgramSpace.nextFile outset.library)).isSome = true := by
    obtain ⟨active, activeEq, _⟩ := introduced.record
    rw [activeEq]
    rfl
  have conducts : ConductsWhile Exchange.Smooth
      (fun exchanges now request => Loads (ProgramSpace.nextFile outset.library)
        (SymbolFile.stages (ProgramSpace.nextFile outset.library) flags) begun.library exchanges
        (.asks { library := World.library now, request := request })) _ [] begun _ :=
    conducts_stages _ tabled fun own later request loads => loads
  apply (conducts.kept (keeps_stages _ _ begun.library) fun _ => introduced.owned).mono
  rintro outcome _ now ⟨⟨own, rfl, loads⟩, listed⟩
  exact ⟨loads, listed⟩

theorem conducts_addSymbolFile (reachable : Reachable .free outset)
    (opened : outset.library.isDisposed space = false) (name : String) (quick : Option QuickId)
    (table : TableRef) (flags : Double) :
    ConductsWhile Exchange.Smooth
      (fun exchanges now request => Underload outset space flags
        (outset.introducing space name quick table flags).library exchanges now.library
        (.asks { library := now.library, request := request }))
      (Operation.addSymbolFile space name quick table flags).routine []
      (outset.note (.started (.addSymbolFile space name quick table flags)))
      fun outcome exchanges now => ∃ returned,
        outcome = returned.map
          (fun _ => Result.objectFile (ProgramSpace.nextFile outset.library)) ∧
        Underload outset space flags (outset.introducing space name quick table flags).library
          exchanges now.library (.ends returned now.library) := by
  have loads := conducts_load (reachable.introduced opened name quick table flags)
  have added := ProgramSpace.apply_addObjectFile_of_open opened name quick
  have set := reachable.setTable_added opened name quick table
  have setting : ConductsWhile Exchange.Smooth
      (fun exchanges now request => Underload outset space flags
        (outset.introducing space name quick table flags).library exchanges now.library
        (.asks { library := now.library, request := request }))
      (SymbolFile.setTable (ProgramSpace.nextFile outset.library) table) []
      ((outset.note (.started (.addSymbolFile space name quick table flags))).after
        (ProgramSpace.addObjectFile space name quick))
      fun outcome after later => ∃ value, outcome = .ok value ∧ after = [] ∧
        later = outset.introducing space name quick table flags := by
    change ConductsWhile _ _ (Routine.edit (Logging.setTable (ProgramSpace.nextFile outset.library)
      table) >>= fun _ => Routine.reached _) [] _ _
    apply conductsWhile_edit
    · exact fun _ _ _ => ⟨(), rfl, rfl, rfl⟩
    · intro error failed
      change ((Logging.setTable (ProgramSpace.nextFile outset.library) table).apply
        ((ProgramSpace.addObjectFile space name quick).apply outset.library).2).1 = _ at failed
      rw [added, set] at failed
      cases failed
  rw [Operation.routine_addSymbolFile]
  apply conductsWhile_edit
  · intro file fileEq
    change ((ProgramSpace.addObjectFile space name quick).apply outset.library).1 = _ at fileEq
    rw [added] at fileEq
    cases fileEq
    apply setting.bind_ok
    rintro _ _ _ ⟨rfl, rfl⟩
    apply loads.bind
    · exact fun value after now underload _ => ⟨.ok value, rfl, underload⟩
    · exact fun error after now underload => ⟨.error error, rfl, underload⟩
  · intro error failed
    change ((ProgramSpace.addObjectFile space name quick).apply outset.library).1 = _ at failed
    rw [added] at failed
    cases failed

end Whole

/-! ### The statement about runs -/

/-- Where the operation stands that adds a symbol file, when its stages began in
`begun`: it waits for the reply to the next event of the stages, or it has had all of
them and hands on what they have come to. -/
inductive Loading (outset : Moment) (space : SpaceId) (name : String) (quick : Option QuickId)
    (table : TableRef) (flags : Double) (begun : World) (exchanges : List Exchange) : Moment → Prop
  | waiting {now : World} {request : Call} {next : Reply → Routine Result}
      (underload : Underload outset space flags begun.library exchanges now.library
        (.asks { library := now.library, request := request })) :
      Loading outset space name quick table flags begun exchanges
        { now.note (.called (.addSymbolFile space name quick table flags) request) with
          pending :=
            { operation := .addSymbolFile space name quick table flags
              request := request
              next := next } :: outset.pending }
  | ended {now : World} {outcome : Except Raised Unit}
      (underload : Underload outset space flags begun.library exchanges now.library
        (.ends outcome now.library)) :
      Loading outset space name quick table flags begun exchanges
        { now.note (.finished (.addSymbolFile space name quick table flags)
            (outcome.map fun _ => .objectFile (ProgramSpace.nextFile outset.library))) with
          pending := outset.pending }

/-- A symbol file is added, in any run, to a space that was never disposed of, while
streams write. Its object file becomes the last one of the space and gets its table
through the gated setter. Then come the stages: the functions that initialize, and
unless bit 4 of the flags is set the function that reads, which gets the flags as they
were given, the note that symbols were read, and the function for the line table. Each
function is called on the table that is active when its stage is reached, if it is in
that table, and the note is made also where nothing is there to read. The first error
ends the operation and is handed on; whatever has been done stays. -/
theorem Reachable.symbol_file_stages {outset later : Moment} (reachable : Reachable .free outset)
    {space : SpaceId} (known : (outset.library.space? space).isSome = true)
    (never : Happening.started (.dispose space) ∉ outset.history) {name : String}
    {quick : Option QuickId} {table : TableRef} {flags : Double} {exchanges : List Exchange}
    (dialogue : Dialogue .free (.addSymbolFile space name quick table flags) outset exchanges later)
    (smooth : ∀ exchange ∈ exchanges, exchange.Smooth) :
    ∃ begun, Introduced outset space name quick table flags begun ∧
      Loading outset space name quick table flags begun exchanges later := by
  have opened := reachable.isDisposed_of_never known never
  refine ⟨_, reachable.introduced opened name quick table flags, ?_⟩
  rcases dialogue.stands reachable
      (conducts_addSymbolFile reachable opened name quick table flags) smooth with
    ⟨now, request, next, underload, rfl⟩ | ⟨now, _, ⟨outcome, rfl, underload⟩, rfl⟩
  · exact .waiting underload
  · exact .ended underload

/-- The debug setting is on, and there is a table with the functions that initialize. -/
def Moment.prepared : Moment :=
  ((Moment.initial.start (.createSpace none)).start (.newReaderTable .initializing)).start
    (.setDebug true)

theorem reachable_prepared : Reachable .free Moment.prepared := by
  have may : ∀ {moment : Moment} {happening : Happening}, Rules.free moment happening :=
    fun _ _ => trivial
  have created : Reachable .free _ := .start (.createSpace none) .initial trivial may
  have made : Reachable .free _ :=
    .start (.newReaderTable .initializing) created (fun _ found => by cases found) may
  exact .start (.setDebug true) made trivial may

/-- The first function turns the debug setting off, so that the second is called
without a record. There is nothing to read, and the symbols count as read. -/
theorem symbol_file_stages_prepared :
    ∃ exchanges later,
      Dialogue .free (.addSymbolFile { index := 0 } "a.out" none (.reader { index := 0 }) .zero)
        Moment.prepared exchanges later ∧
      (exchanges.map fun exchange => exchange.request) =
        [.write .console "sf->newInit (a.out)",
          .function { index := 0 } (some (.table (.reader { index := 0 })))
            [.objectFile { index := 0 }],
          .function { index := 1 } (some (.table (.reader { index := 0 })))
            [.objectFile { index := 0 }]] ∧
      later.library.partialSymbolsRead { index := 0 } = true ∧
      ∃ begun, Introduced Moment.prepared { index := 0 } "a.out" none (.reader { index := 0 }) .zero
          begun ∧
        Loading Moment.prepared { index := 0 } "a.out" none (.reader { index := 0 }) .zero begun
          exchanges later := by
  have may : ∀ {moment : Moment} {happening : Happening}, Rules.free moment happening :=
    fun _ _ => trivial
  have asked : Dialogue .free
      (.addSymbolFile { index := 0 } "a.out" none (.reader { index := 0 }) .zero)
      Moment.prepared [] _ := .start Nat.zero_lt_one may
  have announced := asked.resume (.returned .absent) rfl .refl rfl may
  have relented := announced.resume (.returned .absent) rfl
    (.start (.setDebug false) .refl trivial may) rfl may
  have loaded := relented.resume (.returned .absent) rfl .refl rfl may
  have never : Happening.started (.dispose { index := 0 }) ∉ Moment.prepared.history := by
    intro member
    change _ ∈ [Happening.started (.createSpace none), _, Happening.started (.newReaderTable _), _,
      Happening.started (.setDebug true), _] at member
    simp at member
  refine ⟨_, _, loaded, by decide +kernel, rfl,
    reachable_prepared.symbol_file_stages rfl never loaded ?_⟩
  intro exchange member
  simp only [List.nil_append, List.cons_append, List.mem_cons, List.not_mem_nil, or_false] at member
  rcases member with rfl | rfl | rfl
  · exact fun _ => ⟨⟨_, rfl⟩, rfl⟩
  · exact fun record => absurd record not_false
  · exact fun record => absurd record not_false

end ReaderTrace
