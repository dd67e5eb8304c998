import ReaderTrace.Proofs.Completeness
import ReaderTrace.Proofs.Coupling
import ReaderTrace.Proofs.Presence

/-!
How the relocation of a section reaches its reader.

The relocating function is taken out of the active table and called on its own.
Where the active table is a reader's, the function therefore has no receiver;
where it is a shadow, the forwarding function calls the reader's function as a
method of the reader's table. Either way that function is called once, with the
same arguments, and what it replies is what the relocation comes to.
-/

namespace ReaderTrace

open Routine

/-! ### One request among records -/

/-- Besides records only `request` is asked, and that once. -/
def Once (request : Call) (rounds : List Round) (asked : Asked) : Prop :=
  asked.request.IsRecord ∨
    asked.request = request ∧ ∀ round ∈ rounds, round.request.IsRecord

/-- The routine has handed on the reply to `request`, which was asked once, or a
record could not be written and has ended it. -/
inductive HandsOn (request : Call) (outcome : Except Raised Value) (rounds : List Round) : Prop
  | answered {before after : List Round} {made : Round}
      (roundsEq : rounds = before ++ made :: after) (asks : made.request = request)
      (others : ∀ round ∈ before ++ after, round.request.IsRecord)
      (same : outcome = made.reply.outcome)
  | unwritten {before : List Round} {record : Round} {value : Value}
      (roundsEq : rounds = before ++ [record]) (writes : record.request.IsRecord)
      (thrown : record.reply = .thrown value) (same : outcome = .error (.thrown value))

section Requests

variable {license : Operation → Prop} {allowed : List Round → Asked → Prop} {rounds : List Round}
  {now : World}

/-- The routine has asked `request` and hands its reply on. -/
def Replied (request : Call) (rounds : List Round) (outcome : Except Raised Value)
    (after : List Round) (_ : World) : Prop :=
  ∃ round : Round, after = rounds ++ [round] ∧ round.request = request ∧
    outcome = round.reply.outcome

theorem accounts_replied {request : Call}
    (asks : allowed rounds { library := now.library, request := request }) :
    Accounts license allowed (ask request) rounds now (Replied request rounds) := by
  constructor
  · exact asks
  · intro reply later _
    cases reply with
    | returned value => exact ⟨_, rfl, rfl, rfl⟩
    | thrown value => exact ⟨_, rfl, rfl, rfl⟩

/-- A record has been written, or what was thrown instead has ended the
routine. -/
def Written (rounds : List Round) (outcome : Except Raised Unit) (after : List Round)
    (_ : World) : Prop :=
  ∃ round : Round, after = rounds ++ [round] ∧ round.request.IsRecord ∧
    ∀ raised, outcome = .error raised →
      ∃ value, round.reply = .thrown value ∧ raised = .thrown value

theorem accounts_written {record : String}
    (asks : ∀ stream, allowed rounds { library := now.library, request := .write stream record }) :
    Accounts license allowed (discard (writeRecord record)) rounds now (Written rounds) := by
  constructor
  · exact asks now.library.stream
  · intro reply later _
    cases reply with
    | returned value => exact ⟨_, rfl, trivial, fun raised impossible => by cases impossible⟩
    | thrown value =>
      refine ⟨_, rfl, trivial, fun raised same => ⟨value, rfl, ?_⟩⟩
      cases same
      rfl

end Requests

/-! ### Calling a function that was taken out of its table -/

section Calls

variable {license : Operation → Prop} {now : World}

theorem accounts_client (id : FunctionId) (receiver : Option Receiver) (arguments : List Value) :
    Accounts license (Once (.function id receiver arguments))
      ((TableFunction.client id).invoke receiver arguments) [] now
      fun outcome rounds _ => HandsOn (.function id receiver arguments) outcome rounds := by
  have asks : Once (.function id receiver arguments) []
      { library := now.library, request := .function id receiver arguments } :=
    Or.inr ⟨rfl, fun _ member => by cases member⟩
  apply (accounts_replied asks).mono
  intro outcome rounds later replied
  obtain ⟨made, roundsEq, asked, same⟩ := replied
  have alone : rounds = [] ++ made :: [] := roundsEq
  exact .answered alone asked (fun _ member => by cases member) same

theorem HandsOn.announced {request : Call} {outcome : Except Raised Value} {record made : Round}
    {reports : List Round} (announces : record.request.IsRecord) (asks : made.request = request)
    (others : ∀ round ∈ reports, round.request.IsRecord) (same : outcome = made.reply.outcome) :
    HandsOn request outcome (record :: made :: reports) := by
  have parts : record :: made :: reports = [record] ++ made :: reports := rfl
  refine .answered parts asks (fun round member => ?_) same
  rcases List.mem_cons.mp member with first | later
  · rw [first]
    exact announces
  · exact others round later

theorem HandsOn.broken {request : Call} {raised : Raised} {before rounds : List Round}
    {later : World} (written : Written before (.error raised) rounds later) :
    HandsOn request (.error raised) rounds := by
  obtain ⟨record, roundsEq, isRecord, thrown⟩ := written
  obtain ⟨value, replyEq, raisedEq⟩ := thrown raised rfl
  exact .unwritten roundsEq isRecord replyEq (congrArg Except.error raisedEq)

/-- What a forwarding function does when its target has returned. -/
private theorem accounts_returned {request : Call} {record made : Round} {result : Value}
    (how : Forwarding) (announces : record.request.IsRecord) (asks : made.request = request)
    (same : .ok result = made.reply.outcome) :
    Accounts license (Once request)
      (do
        if result ≠ .absent then
          let text ← Edit.render result
          discard (Routine.writeRecord (how.resultRecord text))
        pure result)
      ([record] ++ [made]) now fun outcome rounds _ => HandsOn request outcome rounds := by
  split
  · apply accounts_edit
    · intro text _
      apply (accounts_written fun _ => Or.inl trivial).bind
      · intro _ rounds later written
        obtain ⟨report, roundsEq, isReport, _⟩ := written
        subst roundsEq
        refine .announced announces asks (fun round member => ?_) same
        rw [List.mem_singleton.mp member]
        exact isReport
      · exact fun _ _ _ written => .broken written
    · intro raised impossible
      cases impossible
  · exact .announced announces asks (fun _ member => by cases member) same

/-- A forwarding function calls its target as a method of the receiver that it
keeps, whatever its own receiver is. -/
theorem accounts_forward (how : Forwarding) (id : FunctionId) (given : Option Receiver)
    (arguments : List Value) :
    Accounts license (Once (.function id (some how.receiver) arguments))
      ((TableFunction.forward how (.client id)).invoke given arguments) [] now
      fun outcome rounds _ => HandsOn (.function id (some how.receiver) arguments) outcome
        rounds := by
  apply accounts_edit
  · intro texts _
    apply (accounts_written fun _ => Or.inl trivial).bind
    · intro _ rounds announced written
      obtain ⟨record, roundsEq, isRecord, _⟩ := written
      subst roundsEq
      have asks : Once (.function id (some how.receiver) arguments) [record]
          { library := announced.library
            request := .function id (some how.receiver) arguments } := by
        refine Or.inr ⟨rfl, fun round member => ?_⟩
        rw [List.mem_singleton.mp member]
        exact isRecord
      apply (accounts_replied asks).bind
      · intro result rounds returned replied
        obtain ⟨made, roundsEq, asked, same⟩ := replied
        subst roundsEq
        exact accounts_returned how isRecord asked same
      · intro raised rounds later replied
        obtain ⟨made, roundsEq, asked, same⟩ := replied
        subst roundsEq
        exact .announced isRecord asked (fun _ member => by cases member) same
    · exact fun _ _ _ written => .broken written
  · intro raised impossible
    cases impossible

end Calls

/-! ### The function that relocates -/

/-- The table itself, or the one that a shadow stands in for. -/
def Library.behind? (library : Library) : TableRef → Option TableRef
  | .reader id => some (.reader id)
  | .shadow id => (library.shadows[id.index]?).map Shadow.base

/-- A relocation that finds `table` active at `now` calls the function that the
reader's table `base` had in the world `past`: its present one where the table is
active itself, the one it had when the shadow was built where a shadow is. Only
a shadow sees to the receiver. -/
inductive Through (license : Operation → Prop) (now : World) (base : ReaderTableId) :
    TableRef → World → Option Receiver → Prop
  | bare : Through license now base (.reader base) now none
  | shadowed {shadow : ShadowId} {host : ObjectFileId} {past next : World}
      (builds : Move license past next) (since : Path license next now)
      (fresh : past.library.shadows.length ≤ shadow.index)
      (built : next.library.shadows[shadow.index]? =
        some (Shadow.build past.library (.reader base) host)) :
      Through license now base (.shadow shadow) past (some (.table (.reader base)))

section Through

variable {license : Operation → Prop} {now past : World} {base : ReaderTableId} {table : TableRef}
  {receiver : Option Receiver}

theorem Through.path (through : Through license now base table past receiver) :
    Path license past now := by
  cases through with
  | bare => exact .refl
  | shadowed builds since _ _ => exact since.head builds

/-- The active table of a file with logging is a shadow. -/
theorem Through.receives (through : Through license now base table past receiver)
    (layer : Layer now.library) {file : ObjectFileId}
    (attached : now.library.isAttached file = true)
    (installed : now.library.isInstalled file = true)
    (active : now.library.tableOf? file = some table) :
    receiver = some (.table (.reader base)) := by
  rw [layer.isInstalled_eq_has] at installed
  obtain ⟨data, entry⟩ := Option.isSome_iff_exists.mp installed
  have wraps := layer.wraps file data entry
  obtain ⟨shadow, shadowEq, _⟩ := wraps.shadow
  have tableEq : table = .shadow shadow :=
    Option.some.inj ((active.symm.trans (wraps.active attached)).trans (congrArg some shadowEq))
  cases through with
  | bare => cases tableEq
  | shadowed => rfl

/-- A table to which nobody assigns has the function still. -/
theorem Through.kept (through : Through license now base table past receiver)
    (begun : Begun license past)
    (unassigned : ∀ operation, license operation → ¬operation.Assigns (.reader base))
    {slot : Slot} {function : TableFunction}
    (had : past.library.function? (.reader base) slot = some function) :
    now.library.function? (.reader base) slot = some function := by
  have looked := had
  change (past.library.readerTables[base.index]?).bind _ = some function at looked
  obtain ⟨found, tableEq, _⟩ := Option.bind_eq_some_iff.mp looked
  have known : base.index < past.library.readerTables.length :=
    (List.getElem?_eq_some_iff.mp tableEq).1
  have same := Path.readerTable through.path begun unassigned known
  rw [Library.function?_of_readerTable same slot]
  exact had

/-- The function that a relocation takes out of the active table calls the
reader's function `id`, on `receiver` when it has none itself. -/
def Reaches (function : TableFunction) (id : FunctionId) (receiver : Option Receiver) : Prop :=
  (function = .client id ∧ receiver = none) ∨
    ∃ how, function = .forward how (.client id) ∧ receiver = some how.receiver

theorem Library.function?_reader {library : Library} {slot : Slot} {function : TableFunction}
    (found : library.function? (.reader base) slot = some function) :
    ∃ id, function = .client id := by
  have looked : library.method? (.reader base) (some slot) =
      some (.table (.reader base), function) := by
    rw [Library.method?_some, found]
    rfl
  exact Library.method?_reader looked

theorem Begun.through (begun : Begun license now) {slot : Slot} {function : TableFunction}
    (real : now.library.behind? table = some (.reader base))
    (found : now.library.function? table slot = some function) :
    ∃ id past receiver, Begun license past ∧ Through license now base table past receiver ∧
      past.library.function? (.reader base) slot = some (.client id) ∧
      Reaches function id receiver := by
  cases table with
  | reader other =>
    cases real
    obtain ⟨id, functionEq⟩ := Library.function?_reader found
    subst function
    exact ⟨id, now, none, begun, .bare, found, Or.inl ⟨rfl, rfl⟩⟩
  | shadow shadow =>
    obtain ⟨record, recordEq, baseEq⟩ := Option.map_eq_some_iff.mp real
    obtain ⟨past, next, reached, builds, since, fresh, built, _, recordBuilt⟩ :=
      begun.building recordEq
    rw [baseEq] at recordBuilt
    rw [recordBuilt] at built
    change (now.library.shadows[shadow.index]?).bind _ = some function at found
    rw [recordEq, recordBuilt] at found
    obtain ⟨target, targetEq, functionEq⟩ := Option.map_eq_some_iff.mp found
    obtain ⟨id, clientEq⟩ := Library.function?_reader targetEq
    subst target
    exact ⟨id, past, _, reached, .shadowed builds since fresh built, targetEq,
      Or.inr ⟨_, functionEq.symm, rfl⟩⟩

end Through

/-! ### The statement about runs -/

theorem accounts_relocation {license : Operation → Prop} {now : World} {file : ObjectFileId}
    {table : TableRef} {function : TableFunction} {id : FunctionId} {receiver : Option Receiver}
    (active : now.library.tableOf? file = some table)
    (found : now.library.function? table .relocate = some function)
    (reaches : Reaches function id receiver) (sectionInfo buffer : Value) :
    Accounts license (Once (.function id receiver [.objectFile file, sectionInfo, buffer]))
      (SymbolFile.relocate file sectionInfo buffer) [] now
      fun outcome rounds _ =>
        HandsOn (.function id receiver [.objectFile file, sectionInfo, buffer]) outcome rounds := by
  apply accounts_activeTable
  · intro other otherActive
    cases active.symm.trans otherActive
    apply accounts_library
    rw [found]
    rcases reaches with ⟨functionEq, receiverEq⟩ | ⟨how, functionEq, receiverEq⟩
    · rw [functionEq, receiverEq]
      exact accounts_client id none _
    · rw [functionEq, receiverEq]
      exact accounts_forward how id none _
  · intro missing
    cases active.symm.trans missing

/-- Relocating a section of an object file whose active table is a reader's, or
the shadow of one, and offers the relocation: the reader's function is called
once, with the arguments given, and its reply is handed on, unless a record
could not be written. The reader's table is the receiver of that call if its
shadow is active, as it is when a live file is logged; otherwise the call has no
receiver. -/
theorem Reachable.relocation_hands_on {allowed : Operation → Prop} {moment : Moment}
    (reachable : Reachable (.only allowed) moment) {file : ObjectFileId} {base : ReaderTableId}
    {table : TableRef} {function : TableFunction}
    (active : moment.library.tableOf? file = some table)
    (real : moment.library.behind? table = some (.reader base))
    (found : moment.library.function? table .relocate = some function)
    (sectionInfo buffer : Value) :
    ∃ id past receiver, Begun allowed past ∧
      Through allowed moment.toWorld base table past receiver ∧
      past.library.function? (.reader base) .relocate = some (.client id) ∧
      ((∀ operation, allowed operation → ¬operation.Assigns (.reader base)) →
        moment.library.function? (.reader base) .relocate = some (.client id)) ∧
      (moment.library.Lists file → moment.library.isInstalled file = true →
        receiver = some (.table (.reader base))) ∧
      Accounts allowed (Once (.function id receiver [.objectFile file, sectionInfo, buffer]))
        (Operation.relocate file sectionInfo buffer).routine []
        (moment.note (.started (.relocate file sectionInfo buffer)))
        fun outcome rounds _ => ∃ value, outcome = value.map Result.value ∧
          HandsOn (.function id receiver [.objectFile file, sectionInfo, buffer]) value rounds := by
  have begun : Begun allowed moment.toWorld :=
    reachable.begun fun _ operation permitted => permitted operation rfl
  obtain ⟨id, past, receiver, reached, through, had, reaches⟩ := begun.through real found
  refine ⟨id, past, receiver, reached, through, had, ?_, ?_, ?_⟩
  · intro unassigned
    exact through.kept reached unassigned had
  · intro live installed
    have attached := begun.sound.registered.isAttached_of_lists live
    exact through.receives begun.sound.layer attached installed active
  · have started : (moment.note (.started (.relocate file sectionInfo buffer))).library =
        moment.library := rfl
    rw [← started] at active found
    apply (accounts_relocation active found reaches sectionInfo buffer).bind
    · intro value rounds later handsOn
      exact ⟨.ok value, rfl, handsOn⟩
    · intro raised rounds later handsOn
      exact ⟨.error raised, rfl, handsOn⟩

/-- With logging the call is made once, on the reader's table. -/
theorem relocation_hands_on_traced :
    Accounts (fun operation => ¬operation.Assigns (.reader { index := 0 }))
      (Once (.function { index := 0 } (some (.table (.reader { index := 0 })))
        [.objectFile { index := 0 }, .null, .null]))
      (Operation.relocate { index := 0 } .null .null).routine []
      (Moment.traced.note (.started (.relocate { index := 0 } .null .null)))
      fun outcome rounds _ => ∃ value, outcome = value.map Result.value ∧
        HandsOn (.function { index := 0 } (some (.table (.reader { index := 0 })))
          [.objectFile { index := 0 }, .null, .null]) value rounds := by
  have traced : Reachable (.only fun operation => ¬operation.Assigns (.reader { index := 0 }))
      Moment.traced := reachable_traced fun _ _ unassigned => unassigned
  have active : Moment.traced.library.tableOf? { index := 0 } = some (.shadow { index := 0 }) := rfl
  have real : Moment.traced.library.behind? (.shadow { index := 0 }) =
      some (.reader { index := 0 }) := rfl
  obtain ⟨function, found⟩ : ∃ function,
      Moment.traced.library.function? (.shadow { index := 0 }) .relocate = some function :=
    ⟨_, rfl⟩
  obtain ⟨id, past, receiver, _, _, _, kept, receives, accounts⟩ :=
    traced.relocation_hands_on active real found .null .null
  have idEq : Moment.traced.library.function? (.reader { index := 0 }) .relocate =
      some (.client id) := kept fun _ unassigned => unassigned
  cases idEq
  have receiverEq := receives lists_traced rfl
  subst receiver
  exact accounts

/-- The reader's function is called on nothing without logging, and on the
reader's table with it. -/
theorem relocatable_receivers :
    Reachable .gated Moment.relocatable ∧ Reachable .gated Moment.traced ∧
    Moment.relocatable.library.baseOf? { index := 0 } = some (.reader { index := 0 }) ∧
    Moment.traced.library.baseOf? { index := 0 } = some (.reader { index := 0 }) ∧
    (∃ frame, (Moment.relocatable.start (.relocate { index := 0 } .null .null)).pending =
        [frame] ∧
      frame.request = .function { index := 0 } none [.objectFile { index := 0 }, .null, .null]) ∧
    ∃ frame, ((Moment.traced.start (.relocate { index := 0 } .null .null)).answer
        (.returned .absent)).pending = [frame] ∧
      frame.request = .function { index := 0 } (some (.table (.reader { index := 0 })))
        [.objectFile { index := 0 }, .null, .null] := by
  have bare : Reachable .gated Moment.relocatable := reachable_relocatable fun _ gated _ => gated
  have traced : Reachable .gated Moment.traced := reachable_traced fun _ gated _ => gated
  exact ⟨bare, traced, rfl, rfl, ⟨_, rfl, rfl⟩, ⟨_, rfl, rfl⟩⟩

end ReaderTrace
