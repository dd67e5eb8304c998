import ReaderTrace.Proofs.Plan

/-!
The records of the operations that read symbols.

Each of these operations follows a plan of calls for one object file, and looks
up the active table anew for every call. Whatever the functions called before
have changed, each call is recorded as the debug setting then says.
-/

namespace ReaderTrace

open Routine

/-! ### Plans of operations -/

def SymbolFile.loadPlan (flags : Double) : List ReaderCall :=
  [.ofSlot .newInit [], .ofSlot .init []] ++
    if SymbolFile.defersReading flags then []
    else [.ofSlot .read [.number flags], .ofSlot .readLinetable []]

namespace Operation

/-- The calls of a reader's functions that the operation makes, each unless its
function is missing. -/
def plan : Operation → List ReaderCall
  | .addSymbolFile _ _ _ _ flags => SymbolFile.loadPlan flags
  | .finishSymbolFile _ _ => [.ofSlot .finish []]
  | .probes _ => [{ method := none, detached := false, arguments := [] }]
  | .relocate _ sectionInfo buffer =>
      [{ method := some .relocate, detached := true, arguments := [sectionInfo, buffer] }]
  | _ => []

/-- The object file that a client named, unlike the one that `addSymbolFile`
adds. -/
def subject? : Operation → Option ObjectFileId
  | .finishSymbolFile _ file => some file
  | .probes file => some file
  | .relocate file _ _ => some file
  | _ => none

end Operation

/-- A listener is told that the file is destroyed. -/
def Tells (file : ObjectFileId) (asked : Asked) : Prop :=
  ∃ listener, asked.request = .function listener none [.objectFile file]

/-- Since `before`, listeners have been told and nothing else has been asked. -/
def Told (file : ObjectFileId) (before rounds : List Round) : Prop :=
  ∃ told, rounds = before ++ told ∧ ∀ round ∈ told, Tells file round.toAsked

/-- What an operation with a plan asks after its rounds. -/
inductive Underway (operation : Operation) (rounds : List Round) (asked : Asked) : Prop
  | reading (file : ObjectFileId)
      (subject : ∀ named, operation.subject? = some named → file = named)
      (during : During file operation.plan rounds asked)
  | notifying {space : SpaceId} {file : ObjectFileId} {before : List Round}
      (finishes : operation = .finishSymbolFile space file)
      (within : Within file operation.plan before) (told : Told file before rounds)
      (tells : Tells file asked)

theorem Underway.of_subject {operation : Operation} {file : ObjectFileId}
    (subject : operation.subject? = some file) (rounds : List Round) (asked : Asked)
    (during : During file operation.plan rounds asked) : Underway operation rounds asked :=
  .reading file (fun _ named => Option.some.inj (subject.symm.trans named)) during

/-! ### Operations with a plan -/

section Operations

variable {now : World} {operation : Operation}

theorem within_nil (file : ObjectFileId) : Within file [] [] :=
  ⟨[], List.Sublist.refl [], .none⟩

theorem accounts_setTable {allowed : List Round → Asked → Prop} {file : ObjectFileId}
    {table : TableRef} (begun : Begun Operation.Genuine now)
    (licensed : ∃ operation : Operation, operation.Genuine ∧ operation.handedTable? = some table)
    (known : now.library.HasTable table) :
    Accounts Operation.Genuine allowed (SymbolFile.setTable file table) [] now
      (Passed file []) := by
  refine accounts_edit (fun _ accepted => fun _ _ => ⟨?_, within_nil file⟩)
    (fun error _ => passed_raised error _)
  exact begun.tail (.relogged (.tableSet file table licensed known accepted))

/-- Reading the symbols follows the plan to its end, or ends it after the
initialization when the flags put off the rest. -/
theorem accounts_load {allowed : List Round → Asked → Prop} {file : ObjectFileId}
    {table : TableRef} {flags : Double} (begun : Begun Operation.Genuine now)
    (licensed : ∃ operation : Operation, operation.Genuine ∧ operation.handedTable? = some table)
    (known : now.library.HasTable table)
    (asks : ∀ rounds asked, During file (SymbolFile.loadPlan flags) rounds asked →
      allowed rounds asked) :
    Accounts Operation.Genuine allowed (SymbolFile.load file table flags) [] now
      fun _ _ _ => True := by
  refine (accounts_setTable begun licensed known).andThen fun _ rounds set passed => ?_
  obtain ⟨begunSet, within⟩ := passed () rfl
  refine (accounts_callPresent begunSet within ⟨_, rfl⟩ asks).andThen ?_
  intro _ rounds began passed
  obtain ⟨begunBegan, within⟩ := passed () rfl
  refine (accounts_callPresent begunBegan within ⟨_, rfl⟩ asks).andThen ?_
  intro _ rounds initialised passed
  obtain ⟨begunInitialised, within⟩ := passed () rfl
  unfold SymbolFile.loadPlan at asks
  cases deferred : SymbolFile.defersReading flags with
  | true => exact trivial
  | false =>
    rw [deferred] at asks
    refine (accounts_callPresent begunInitialised within ⟨_, rfl⟩ asks).andThen ?_
    intro _ rounds read passed
    obtain ⟨begunRead, within⟩ := passed () rfl
    refine accounts_edit (fun _ _ => ?_) fun _ _ => trivial
    have begunFlagged := begunRead.tail (.aside (.symbolsRead file true))
    exact (accounts_callPresent begunFlagged within ⟨_, rfl⟩ asks).mono fun _ _ _ _ => trivial

theorem accounts_addSymbolFile {space : SpaceId} {name : String} {quick : Option QuickId}
    {table : TableRef} {flags : Double}
    (genuine : (Operation.addSymbolFile space name quick table flags).Genuine)
    (known : now.library.HasTable table) (begun : Begun Operation.Genuine now) :
    Accounts Operation.Genuine (Underway (.addSymbolFile space name quick table flags))
      (SymbolFile.add space name quick table flags) [] now fun _ _ _ => True := by
  refine accounts_edit (fun file _ => ?_) fun _ _ => trivial
  have begunAdded : Begun Operation.Genuine
      (now.after (ProgramSpace.addObjectFile space name quick)) :=
    begun.trans (Course.path (honours_addObjectFile space name quick now))
  have knownAdded :
      (now.after (ProgramSpace.addObjectFile space name quick)).library.HasTable table := by
    unfold World.after
    rw [ProgramSpace.apply_addObjectFile]
    split <;> exact known
  refine (accounts_load begunAdded ⟨_, genuine, rfl⟩ knownAdded ?_).map
  exact fun rounds asked during => .reading file (fun _ impossible => by cases impossible) during

theorem Told.next {file : ObjectFileId} {before rounds : List Round}
    (told : Told file before rounds) {round : Round} (tells : Tells file round.toAsked) :
    Told file before (rounds ++ [round]) := by
  obtain ⟨others, roundsEq, each⟩ := told
  refine ⟨others ++ [round], by rw [roundsEq, List.append_assoc], fun other member => ?_⟩
  rcases List.mem_append.mp member with earlier | last
  · exact each other earlier
  · rw [List.mem_singleton.mp last]
    exact tells

/-- When the plan is done, listeners are told one after another. -/
theorem accounts_removal {space : SpaceId} {file : ObjectFileId} {rounds : List Round}
    (within : Within file (Operation.plan (.finishSymbolFile space file)) rounds) :
    Accounts Operation.Genuine (Underway (.finishSymbolFile space file))
      (ProgramSpace.removeObjectFile space file) rounds now fun _ _ _ => True := by
  have notified : ∀ listener after later, Told file rounds after →
      Accounts Operation.Genuine (Underway (.finishSymbolFile space file))
        (Event.notify (.objectFile file) listener) after later
        fun _ further _ => Told file rounds further := by
    intro listener after later told
    cases listener with
    | release => exact told
    | client function =>
      refine ⟨.notifying rfl within told ⟨function, rfl⟩, fun reply finish _ => ?_⟩
      cases reply <;> exact told.next ⟨function, rfl⟩
  have posted : ∀ later, Accounts Operation.Genuine (Underway (.finishSymbolFile space file))
      (Event.post destroyedEvent (.objectFile file)) rounds later
      fun _ further _ => Told file rounds further := fun later =>
    accounts_forM (fun listener _ after finish told => notified listener after finish told)
      ⟨[], (List.append_nil _).symm, fun _ member => by cases member⟩
  refine accounts_edit (fun _ _ => ?_) fun _ _ => trivial
  change Accounts _ _ (Event.post destroyedEvent (.objectFile file) >>= fun _ =>
    Routine.edit (Edit.detach file)) rounds
    ((now.after (ProgramSpace.strike space file)).note (.reached (.destroyed file))) _
  exact (posted _).andThen fun _ _ _ _ => trivial

theorem accounts_finish (space : SpaceId) (file : ObjectFileId)
    (begun : Begun Operation.Genuine now) :
    Accounts Operation.Genuine (Underway (.finishSymbolFile space file))
      (SymbolFile.finish space file) [] now fun _ _ _ => True := by
  have asks := Underway.of_subject (rfl : Operation.subject? (.finishSymbolFile space file) = file)
  refine Accounts.andThen (accounts_callPresent begun (within_nil file) ⟨[], rfl⟩ asks) ?_
  intro _ rounds later passed
  exact accounts_removal (passed () rfl).2

theorem accounts_probes (file : ObjectFileId) (begun : Begun Operation.Genuine now) :
    Accounts Operation.Genuine (Underway (.probes file)) (SymbolFile.probes file) [] now
      fun _ _ _ => True := by
  have asks := Underway.of_subject (rfl : Operation.subject? (.probes file) = file)
  refine accounts_activeTable (fun table active => ?_) fun _ _ => trivial
  apply accounts_library
  cases present : now.library.probes? table with
  | none => exact trivial
  | some found =>
    have looked : ReaderCall.find? { method := none, detached := false, arguments := [] } file
        now.library = some (.probes found.1, found.2) := by
      rw [ReaderCall.find?_of_active _ _ active]
      exact congrArg (Option.map _) present
    exact (accounts_planned begun (within_nil file) ⟨[], rfl⟩ asks looked).map

theorem accounts_relocate (file : ObjectFileId) (sectionInfo buffer : Value)
    (begun : Begun Operation.Genuine now) :
    Accounts Operation.Genuine (Underway (.relocate file sectionInfo buffer))
      (SymbolFile.relocate file sectionInfo buffer) [] now fun _ _ _ => True := by
  have asks :=
    Underway.of_subject (rfl : Operation.subject? (.relocate file sectionInfo buffer) = file)
  refine accounts_activeTable (fun table active => ?_) fun _ _ => trivial
  apply accounts_library
  cases present : now.library.function? table .relocate with
  | none => exact trivial
  | some function =>
    have looked : ReaderCall.find?
        { method := some .relocate, detached := true, arguments := [sectionInfo, buffer] } file
        now.library = some (.table table, function) := by
      rw [ReaderCall.find?_of_active _ _ active]
      exact congrArg (Option.map _) present
    exact (accounts_planned begun (within_nil file) ⟨[], rfl⟩ asks looked).mono
      fun _ _ _ _ => trivial

theorem Operation.accounts (planned : operation.plan ≠ []) (genuine : operation.Genuine)
    (admissible : operation.Admissible now.library) (begun : Begun Operation.Genuine now) :
    Accounts Operation.Genuine (Underway operation) operation.routine [] now
      fun _ _ _ => True := by
  cases operation with
  | addSymbolFile space name quick table flags =>
    exact (accounts_addSymbolFile genuine admissible begun).map
  | finishSymbolFile space file =>
    exact (accounts_finish space file begun).map
  | probes file =>
    exact (accounts_probes file begun).map
  | relocate file sectionInfo buffer =>
    exact (accounts_relocate file sectionInfo buffer begun).map
  | _ => exact absurd rfl planned

end Operations

/-! ### The statement about runs -/

/-- A call that an operation with a plan waits for lies on a trail of the calls
that the operation has made. On every such trail each call of a reader's function
is one step. For a live object file the call is made in silence if the debug
setting is off at the moment at which the operation makes it; if the setting is
on, exactly one record, its call record, comes between the step before and the
call. -/
theorem Reachable.calls_recorded {moment : Moment} (reachable : Reachable .genuine moment)
    {frame : Frame} {outer : List Frame} (waiting : moment.pending = frame :: outer)
    (planned : frame.operation.plan ≠ []) :
    (∃ rounds made, Trail .genuine frame.operation outer rounds made ∧
      made.pending = frame :: outer ∧ Meanwhile .genuine (frame :: outer) made moment) ∧
    ∀ rounds made, Trail .genuine frame.operation outer rounds made →
      made.pending = frame :: outer →
      Underway frame.operation rounds { library := made.library, request := frame.request } := by
  refine ⟨reachable.trail ⟨[], waiting.symm⟩, ?_⟩
  intro rounds made trail asked
  exact trail.accounts (fun _ operation permitted => permitted operation rfl)
    (fun _ genuine admissible begun => Operation.accounts planned genuine admissible begun) asked

/-- A reader's table with the two functions that initialize. -/
def ReaderTable.initializing : ReaderTable :=
  { functions := fun slot =>
      { own := none
        behind := match slot with
          | .newInit => some { index := 0 }
          | .init => some { index := 1 }
          | _ => none }
    probes := { own := none, behind := none } }

/-- The first of the functions turns the debug setting off before it returns. -/
def Moment.relenting : Moment :=
  let made := (Moment.initial.start (.createSpace none)).start (.newReaderTable .initializing)
  let announced := (made.start (.setDebug true)).start
    (.addSymbolFile { index := 0 } "a.out" none (.reader { index := 0 }) .zero)
  ((announced.answer (.returned .absent)).start (.setDebug false)).answer (.returned .absent)

/-- The call of the first function was announced, and that of the second is made
in silence. -/
theorem calls_recorded_relenting :
    Moment.relenting.library.Lists { index := 0 } ∧ Moment.relenting.library.debug = false ∧
    ∃ record made frame, Moment.relenting.pending = [frame] ∧ record.library.debug = true ∧
      record.request = .write .console "sf->newInit (a.out)" ∧
      made.request = .function { index := 0 } (some (.table (.reader { index := 0 })))
        [.objectFile { index := 0 }] ∧
      frame.request = .function { index := 1 } (some (.table (.reader { index := 0 })))
        [.objectFile { index := 0 }] ∧
      Underway frame.operation [record, made]
        { library := Moment.relenting.library, request := frame.request } := by
  have may : ∀ {moment : Moment} {operation : Operation}, operation.Genuine →
      Rules.genuine moment (.started operation) := Rules.only_started
  have mayAnswer : ∀ {moment : Moment} {operation : Operation} {request : Call} {reply : Reply},
      Rules.genuine moment (.answered operation request reply) := fun _ same => by cases same
  have plain : ∀ {operation : Operation}, operation.Gated → operation.handedTable? = none →
      operation.Genuine := fun gated none => ⟨gated, fun _ handed => by
    rw [none] at handed
    cases handed⟩
  have made : Reachable .genuine _ :=
    .start (.setDebug true)
      (.start (.newReaderTable .initializing)
        (.start (.createSpace none) .initial trivial (may (plain trivial rfl)))
        (fun _ found => by cases found) (may (plain trivial rfl)))
      trivial (may (plain trivial rfl))
  have announced : Trail .genuine
      (.addSymbolFile { index := 0 } "a.out" none (.reader { index := 0 }) .zero) [] [] _ :=
    .start made rfl Nat.zero_lt_one
      (may ⟨trivial, fun _ handed => ⟨_, (Option.some.inj handed).symm⟩⟩)
  have called := announced.resume (.returned .absent) rfl .refl rfl mayAnswer
  have silent := called.resume (.returned .absent) rfl
    (.start (.setDebug false) .refl trivial (may (plain trivial rfl))) rfl mayAnswer
  have underway := (silent.reachable.calls_recorded rfl (List.cons_ne_nil _ _)).2 _ _ silent rfl
  exact ⟨⟨{ index := 0 }, by decide⟩, rfl, _, _, _, rfl, rfl, rfl, rfl, rfl, underway⟩

end ReaderTrace
