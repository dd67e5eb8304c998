import ReaderTrace.Proofs.Dialogue

/-!
The two records of a traced accessor.

The accessor reads the debug setting when it is called and again when the quick
function has returned. Each reading decides about one record alone, so a quick
function that changes the setting leaves a result record without its call record
or a call record without its result record.
-/

namespace ReaderTrace

open Routine

namespace QuickRequest

/-- The write of the accessor's call record. -/
def IsCallRecord (request : QuickRequest Value) (call : Call) : Prop :=
  ∃ stream host texts, call =
    .write stream (Record.call TableLabel.quick.name request.function.name host texts)

/-- The write of the accessor's result record. -/
def IsResultRecord (request : QuickRequest Value) (call : Call) : Prop :=
  ∃ stream text, call =
    .write stream (Record.result TableLabel.quick.name request.function.name text)

/-- The call of the quick function, where the object file has any. -/
def consultation (request : QuickRequest Value) (functions : Option QuickId)
    (file : ObjectFileId) : List Call :=
  functions.toList.map fun functions =>
    .quick functions request.function (.objectFile file :: request.arguments)

end QuickRequest

/-- One record is written where the setting is on, and none where it is off. -/
def RecordedIf (debug : Bool) (record : Call → Prop) (exchanges : List Exchange) : Prop :=
  match debug with
  | true => ∃ exchange, exchanges = [exchange] ∧ record exchange.request
  | false => exchanges = []

theorem RecordedIf.eq_nil_iff {debug : Bool} {record : Call → Prop} {exchanges : List Exchange}
    (recorded : RecordedIf debug record exchanges) : exchanges = [] ↔ debug = false := by
  cases debug with
  | false => exact iff_of_true recorded rfl
  | true =>
    obtain ⟨exchange, alone, _⟩ := recorded
    exact iff_of_false (by simp [alone]) (by simp)

theorem RecordedIf.length_eq_one {record : Call → Prop} {exchanges : List Exchange}
    (recorded : RecordedIf true record exchanges) : exchanges.length = 1 := by
  obtain ⟨exchange, rfl, _⟩ := recorded
  rfl

/-- The records of an accessor that began at `begun` and has returned. -/
def Accessed (request : QuickRequest Value) (functions : Option QuickId) (file : ObjectFileId)
    (begun : World) (exchanges : List Exchange) : Prop :=
  ∃ called consulted recorded, exchanges = called ++ consulted ++ recorded ∧
    RecordedIf begun.library.debug request.IsCallRecord called ∧
    (consulted.map fun exchange => exchange.request) = request.consultation functions file ∧
    RecordedIf (begun.latest (called ++ consulted)).library.debug request.IsResultRecord recorded

/-! ### Rendering -/

theorem Quick.fileName_isSome {kept : Content → Option String} {object : ObjectId}
    {library : Library} {text : Option String}
    (found : ((fileName kept object).apply library).1 = .ok text) :
    ∃ shown, text = some shown := by
  rw [apply_fileName] at found
  split at found
  · cases found
    exact ⟨_, rfl⟩
  · cases found

/-- A result of a kind that is recorded has a text. -/
theorem Quick.renderResult_isSome {kind : ResultKind} {result : Value} {library : Library}
    {text : Option String} (recorded : kind ≠ .unrecorded)
    (rendered : ((renderResult kind result).apply library).1 = .ok text) :
    ∃ shown, text = some shown := by
  unfold renderResult at rendered
  split at rendered
  · exact absurd rfl recorded
  · cases rendered
    exact ⟨_, rfl⟩
  · cases rendered
    exact ⟨_, rfl⟩
  · exact fileName_isSome rendered
  · exact fileName_isSome rendered
  · cases rendered

/-! ### The accessor -/

section Accessor

variable {begun now : World} {exchanges : List Exchange} {request : QuickRequest Value}

theorem conducts_recordCall {debug : Bool} (name : String) (texts : List String)
    (same : now.library.debug = begun.library.debug) :
    Conducts (fun _ _ _ => True) (Quick.recordCall debug name request texts) [] now
      fun outcome called later => outcome = .ok () →
        RecordedIf debug request.IsCallRecord called ∧
        later.library.debug = (begun.latest called).library.debug := by
  unfold Quick.recordCall
  cases debug with
  | false => exact fun _ => ⟨rfl, same⟩
  | true =>
    apply (conducts_writeRecord trivial).mono
    intro outcome called later ⟨reply, ⟨exchange, calledEq, requestEq, _, resumedEq⟩, _⟩ _
    rw [calledEq]
    exact ⟨⟨exchange, rfl, _, _, _, requestEq⟩, congrArg (·.library.debug) resumedEq.symm⟩

theorem conducts_consult (functions : Option QuickId) (file : ObjectFileId)
    (same : now.library.debug = (begun.latest exchanges).library.debug) :
    Conducts (fun _ _ _ => True) (Quick.consult functions file request) exchanges now
      fun _ after later => ∃ consulted, after = exchanges ++ consulted ∧
        (consulted.map fun exchange => exchange.request) =
          request.consultation functions file ∧
        later.library.debug = (begun.latest after).library.debug := by
  cases functions with
  | none => exact ⟨[], (List.append_nil _).symm, rfl, same⟩
  | some functions =>
    apply (conducts_ask trivial).mono
    intro outcome after later ⟨reply, ⟨exchange, afterEq, requestEq, _, resumedEq⟩, _⟩
    refine ⟨[exchange], afterEq, ?_, ?_⟩
    · exact congrArg (· :: []) requestEq
    · rw [afterEq, World.latest_append, resumedEq]

theorem conducts_recordResult {debug : Bool} (result : Value)
    (kind : request.resultKind ≠ .unrecorded) :
    Conducts (fun _ _ _ => True) (Quick.recordResult debug request result) exchanges now
      fun outcome after _ => outcome = .ok () →
        ∃ recorded, after = exchanges ++ recorded ∧
          RecordedIf debug request.IsResultRecord recorded := by
  unfold Quick.recordResult
  cases debug with
  | false => exact fun _ => ⟨[], (List.append_nil _).symm, rfl⟩
  | true =>
    apply conducts_edit
    · intro text rendered
      obtain ⟨shown, rfl⟩ := Quick.renderResult_isSome kind rendered
      apply (conducts_writeRecord trivial).mono
      intro outcome after later ⟨reply, ⟨exchange, afterEq, requestEq, _, _⟩, _⟩ _
      exact ⟨[exchange], afterEq, exchange, rfl, _, _, requestEq⟩
    · intro raised _ impossible
      cases impossible

/-- An accessor whose result is recorded writes each of its records as the
setting is when it comes to it. -/
theorem conducts_access (file : ObjectFileId) (kind : request.resultKind ≠ .unrecorded) :
    Conducts (fun _ _ _ => True) (Quick.access file request) [] begun
      fun outcome exchanges _ => ∀ value, outcome = .ok value →
        Accessed request (begun.library.quickOf? file) file begun exchanges := by
  obtain ⟨texts, addresses, rendered⟩ := Quick.apply_renderParts request.recorded begun.library
  apply conducts_edit
  · intro shown _
    have before : (begun.after (Quick.renderParts request.recorded)).library =
        { begun.library with addresses := addresses } := congrArg Prod.snd rendered
    generalize begun.after (Quick.renderParts request.recorded) = now at before ⊢
    have debugEq : now.library.debug = begun.library.debug := by rw [before]
    have quickEq : now.library.quickOf? file = begun.library.quickOf? file := by
      rw [before]
      rfl
    change Conducts _ (Quick.recordCall now.library.debug (now.library.debugName file) request
      shown >>= _) _ _ _
    apply (conducts_recordCall _ shown debugEq).bind
    · intro _ called later recordedCall
      obtain ⟨calls, same⟩ := recordedCall rfl
      rw [debugEq] at calls
      rw [quickEq]
      apply (conducts_consult (begun.library.quickOf? file) file same).bind
      · intro result exchanges after ⟨consulted, exchangesEq, consultedEq, sameAfter⟩
        apply (conducts_recordResult result kind).bind
        · intro _ all finish recordedResult value _
          obtain ⟨recorded, allEq, results⟩ := recordedResult rfl
          rw [exchangesEq] at allEq sameAfter
          rw [sameAfter] at results
          exact ⟨called, consulted, recorded, allEq, calls, consultedEq, results⟩
        · intro error all finish _ value impossible
          cases impossible
      · intro error exchanges after _ value impossible
        cases impossible
    · intro error called later _ value impossible
      cases impossible
  · intro error _ value impossible
    cases impossible

end Accessor

/-! ### The statement about runs -/

/-- An accessor whose result is recorded, in any run, when it has returned: its
call record was written if the debug setting was on when it was started, its
result record if the setting was on when it was given control last before that
record, and it asked the quick function in between. The records are both there or
both missing exactly if the setting was the same at these two points. -/
theorem Reachable.access_records {moment : Moment} (reachable : Reachable .free moment)
    {file : ObjectFileId} {request : QuickRequest Value}
    (kind : request.resultKind ≠ .unrecorded) {exchanges : List Exchange} {later : Moment}
    (dialogue : Dialogue .free (.access file request) moment exchanges later) {result : Result}
    (returned : later.history.getLast? = some (.finished (.access file request) (.ok result))) :
    ∃ called consulted recorded, exchanges = called ++ consulted ++ recorded ∧
      RecordedIf moment.library.debug request.IsCallRecord called ∧
      (consulted.map fun exchange => exchange.request) =
        request.consultation (moment.library.quickOf? file) file ∧
      RecordedIf (moment.latest (called ++ consulted)).library.debug request.IsResultRecord
        recorded ∧
      ((called = [] ↔ recorded = []) ↔
        moment.library.debug = (moment.latest (called ++ consulted)).library.debug) := by
  have conducts : Conducts (fun _ _ _ => True) (Operation.access file request).routine []
      (moment.note (.started (.access file request))) fun outcome exchanges _ =>
        ∀ result, outcome = .ok result → Accessed request (moment.library.quickOf? file) file
          (moment.note (.started (.access file request))) exchanges := by
    apply (conducts_access file kind).bind
    · exact fun value exchanges later accessed _ _ => accessed value rfl
    · intro error exchanges later _ result impossible
      cases impossible
  obtain ⟨now, accessed, _⟩ := (dialogue.standing reachable conducts).ended_of_finished returned
  obtain ⟨called, consulted, recorded, exchangesEq, calls, consultedEq, results⟩ :=
    accessed result rfl
  have begins : ((moment.note (.started (.access file request))).latest
      (called ++ consulted)).library = (moment.latest (called ++ consulted)).library := by
    unfold World.latest
    cases (called ++ consulted).getLast? <;> rfl
  rw [begins] at results
  refine ⟨called, consulted, recorded, exchangesEq, calls, consultedEq, results, ?_⟩
  rw [calls.eq_nil_iff, results.eq_nil_iff]
  change (moment.library.debug = false ↔ _) ↔ _
  cases moment.library.debug <;>
    cases (moment.latest (called ++ consulted)).library.debug <;> simp

/-- An object file whose reader has quick functions. -/
def Moment.equipped : Moment :=
  ((Moment.initial.start (.createSpace none)).start
    (.newQuickFunctions { answersLazyReading := false })).start
      (.addObjectFile { index := 0 } "a.out" (some { index := 0 }))

theorem reachable_equipped : Reachable .free Moment.equipped := by
  have may : ∀ {moment : Moment} {operation : Operation},
      Rules.free moment (.started operation) := fun _ _ => trivial
  have created := Reachable.start (.createSpace none) .initial trivial may
  have made := Reachable.start (.newQuickFunctions { answersLazyReading := false }) created trivial
    may
  exact Reachable.start (.addObjectFile { index := 0 } "a.out" (some { index := 0 })) made trivial
    may

/-- Two calls while the setting is on. Where the quick function leaves it on, both
records are written around the question; where it turns it off, only the first. -/
theorem access_records_toggled :
    (∃ exchanges later, Dialogue .free (.access { index := 0 } .findLastSource)
        (Moment.equipped.start (.setDebug true)) exchanges later ∧
      ∃ called consulted recorded, exchanges = called ++ consulted ++ recorded ∧
        called.length = 1 ∧ consulted.length = 1 ∧ recorded.length = 1) ∧
    ∃ exchanges later, Dialogue .free (.access { index := 0 } .findLastSource)
        (Moment.equipped.start (.setDebug true)) exchanges later ∧
      ∃ called consulted recorded, exchanges = called ++ consulted ++ recorded ∧
        called.length = 1 ∧ consulted.length = 1 ∧ recorded = [] := by
  have may : ∀ {moment : Moment} {happening : Happening}, Rules.free moment happening :=
    fun _ _ => trivial
  have reachable : Reachable .free (Moment.equipped.start (.setDebug true)) :=
    .start (.setDebug true) reachable_equipped trivial may
  have begun : Dialogue .free (.access { index := 0 } .findLastSource)
      (Moment.equipped.start (.setDebug true)) [] _ := .start trivial may
  have asked := begun.resume (.returned .absent) rfl .refl rfl may
  constructor
  · have replied := asked.resume (.returned .null) rfl .refl rfl may
    have written := replied.resume (.returned .absent) rfl .refl rfl may
    obtain ⟨called, consulted, recorded, exchangesEq, calls, consultedEq, _, _⟩ :=
      reachable.access_records (by decide) written rfl
    have calledLength := calls.length_eq_one
    have consultedLength : consulted.length = 1 := by
      rw [← List.length_map, consultedEq]
      rfl
    have total : 3 = (called ++ consulted ++ recorded).length := congrArg List.length exchangesEq
    rw [List.length_append, List.length_append] at total
    exact ⟨_, _, written, called, consulted, recorded, exchangesEq, calledLength,
      consultedLength, by omega⟩
  · have replied := asked.resume (.returned .null) rfl (.start (.setDebug false) .refl trivial may)
      rfl may
    obtain ⟨called, consulted, recorded, exchangesEq, calls, consultedEq, _, _⟩ :=
      reachable.access_records (by decide) replied rfl
    have calledLength := calls.length_eq_one
    have consultedLength : consulted.length = 1 := by
      rw [← List.length_map, consultedEq]
      rfl
    have total : 2 = (called ++ consulted ++ recorded).length := congrArg List.length exchangesEq
    rw [List.length_append, List.length_append] at total
    exact ⟨_, _, replied, called, consulted, recorded, exchangesEq, calledLength,
      consultedLength, List.length_eq_zero_iff.mp (by omega)⟩

/-- The quick function turns the setting on: the result is recorded and the call
is not. -/
theorem access_unpaired :
    Reachable .free Moment.equipped ∧
    ∃ exchanges later,
      Dialogue .free (.access { index := 0 } .findLastSource) Moment.equipped exchanges later ∧
      later.history.getLast? =
        some (.finished (.access { index := 0 } .findLastSource) (.ok (.value .null))) ∧
      (exchanges.map fun exchange => exchange.request) =
        [.quick { index := 0 } .findLastSourceSymtab [.objectFile { index := 0 }],
          .write .console (Record.result TableLabel.quick.name
            QuickFunction.findLastSourceSymtab.name Record.nullPlaceholder)] := by
  have may : ∀ {moment : Moment} {happening : Happening}, Rules.free moment happening :=
    fun _ _ => trivial
  have asked : Dialogue .free (.access { index := 0 } .findLastSource) Moment.equipped [] _ :=
    .start trivial may
  have replied := asked.resume (.returned .null) rfl (.start (.setDebug true) .refl trivial may) rfl
    may
  have written := replied.resume (.returned .absent) rfl .refl rfl may
  exact ⟨reachable_equipped, _, _, written, rfl, rfl⟩

end ReaderTrace
