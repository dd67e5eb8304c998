import ReaderTrace.Proofs.Announcement
import ReaderTrace.Proofs.Coupling
import ReaderTrace.Proofs.Invocation
import ReaderTrace.Proofs.Rooted

/-!
When finishing a symbol file is refused.

The reader is told to finish before the removal looks whether the space lists the
file. A finish with the wrong space, or for a file that was removed, therefore calls
the reader, with the records of that call if the table is a shadow, and then fails,
and nothing else happens.
-/

namespace ReaderTrace

open Routine

/-! ### The one call of an invocation -/

def Call.unlessRecord : Call → Option Call
  | .write _ _ => none
  | request => some request

/-- The calls among exchanges, without the records. -/
def requested (exchanges : List Exchange) : List Call :=
  exchanges.filterMap fun exchange => exchange.request.unlessRecord

theorem requested_append (first second : List Exchange) :
    requested (first ++ second) = requested first ++ requested second :=
  List.filterMap_append ..

theorem requested_cons_of_record {exchange : Exchange} (exchanges : List Exchange)
    (record : exchange.request.unlessRecord = none) :
    requested (exchange :: exchanges) = requested exchanges :=
  List.filterMap_cons_none record

section Invocation

variable {receiver : Option Receiver} {arguments : List Value} {begun finish : Library}
  {exchanges : List Exchange} {outcome : Except Raised Value} {asked : Asked}

theorem Forwarding.Announces.unlessRecord {how : Forwarding}
    (announces : how.Announces arguments begun asked) : asked.request.unlessRecord = none := by
  rw [announces.request]
  rfl

theorem Forwarding.Reports.unlessRecord {how : Forwarding} {result : Value}
    (reports : how.Reports result begun asked) : asked.request.unlessRecord = none := by
  rw [reports.request]
  rfl

theorem Forwarding.Closes.requested {how : Forwarding} {inner : Except Raised Value}
    (closes : how.Closes begun inner exchanges outcome finish) : requested exchanges = [] := by
  cases closes with
  | reported present reports => exact requested_cons_of_record [] reports.unlessRecord
  | absent => rfl
  | raised error => rfl

theorem Forwarding.Closes.inner_ok {how : Forwarding} {inner : Except Raised Value} {value : Value}
    (closes : how.Closes begun inner exchanges outcome finish) (ok : outcome = .ok value) :
    ∃ result, inner = .ok result := by
  cases closes with
  | reported present reports => exact ⟨_, rfl⟩
  | absent => exact ⟨_, rfl⟩
  | raised error => cases ok

namespace TableFunction

/-- The call of a reader's function at which an invocation arrives. -/
def request : TableFunction → Option Receiver → List Value → Call
  | .client id, receiver, arguments => .function id receiver arguments
  | .forward how target, _, arguments => target.request (some how.receiver) arguments

variable {function : TableFunction}

/-- An invocation makes no call but the one at which it arrives, and it makes that one
if it comes to a result. -/
theorem Completes.requested
    (completes : function.Completes receiver arguments begun exchanges outcome finish) :
    requested exchanges <+: [function.request receiver arguments] ∧
      ∀ value, outcome = .ok value →
        requested exchanges = [function.request receiver arguments] := by
  induction function generalizing receiver begun exchanges outcome finish with
  | client id =>
    obtain ⟨exchange, rfl, asked, _, _⟩ := completes
    have requestEq : exchange.request = .function id receiver arguments :=
      congrArg Asked.request asked
    have one : ReaderTrace.requested [exchange] = [.function id receiver arguments] := by
      simp [ReaderTrace.requested, requestEq, Call.unlessRecord]
    rw [one]
    exact ⟨List.prefix_rfl, fun _ _ => rfl⟩
  | forward how target ih =>
    obtain ⟨announcement, own, rfl, announces, ended⟩ := completes
    rw [requested_cons_of_record own announces.unlessRecord]
    obtain ⟨value, _, rfl, rfl, _⟩ | ⟨_, called, reports, inner, middle, _, rfl, performed, closes⟩ :=
      ended
    · exact ⟨List.nil_prefix, nofun⟩
    · rw [requested_append, closes.requested, List.append_nil]
      obtain ⟨most, all⟩ := ih performed
      refine ⟨most, fun value ok => ?_⟩
      obtain ⟨result, innerOk⟩ := closes.inner_ok ok
      exact all result innerOk

theorem Requests.requested
    (requests : function.Requests receiver arguments begun exchanges asked) :
    requested exchanges ++ asked.request.unlessRecord.toList <+:
      [function.request receiver arguments] := by
  induction function generalizing receiver begun exchanges with
  | client id =>
    obtain ⟨rfl, rfl⟩ := requests
    exact List.prefix_rfl
  | forward how target ih =>
    obtain ⟨rfl, announces⟩ | ⟨announcement, _, called, rfl, announces, _, next⟩ := requests
    · rw [announces.unlessRecord]
      exact List.nil_prefix
    · rw [requested_cons_of_record called announces.unlessRecord]
      obtain inner | ⟨result, middle, _, completes, reports⟩ := next
      · exact ih inner
      · rw [reports.unlessRecord, Option.toList_none, List.append_nil]
        exact completes.requested.1

end TableFunction

end Invocation

/-! ### A finish that is refused -/

/-- The assertion with which the removal of a file fails that the space does not list. -/
def Library.refusal (library : Library) (space : SpaceId) (file : ObjectFileId) : Raised :=
  .fault (.assertion (.notOwned (library.debugName file) (library.spaceName space)))

section Conducts

variable {during : List Exchange → World → Call → Prop} {exchanges : List Exchange}
  {begun now : World} {space : SpaceId} {file : ObjectFileId} {table : TableRef}

theorem conducts_removeObjectFile_of_unlisted (unlisted : file ∉ now.library.owned space) :
    Conducts during (ProgramSpace.removeObjectFile space file) exchanges now
      fun outcome after later => outcome = .error (now.library.refusal space file) ∧
        after = exchanges ∧ later = now := by
  have refused := ProgramSpace.apply_strike_of_notMem unlisted
  change Conducts _ (Routine.edit (ProgramSpace.strike space file) >>= _) _ _ _
  apply conducts_edit
  · intro value impossible
    rw [refused] at impossible
    cases impossible
  · intro error raised
    rw [refused] at raised
    cases raised
    refine ⟨rfl, rfl, ?_⟩
    unfold World.after
    rw [refused]

/-- A finish hands on what was raised while the reader was called, and fails itself if
that has come to a result. -/
theorem conducts_refusal (known : file.index < begun.library.objectFiles.length)
    (unlisted : file ∉ begun.library.owned space) :
    Conducts (SymbolFile.Calling begun file .finish [.objectFile file])
      (Operation.finishSymbolFile space file).routine [] begun fun outcome exchanges now =>
        ∃ called, outcome = called.bind (fun _ => .error (now.library.refusal space file)) ∧
          SymbolFile.Called begun file .finish [.objectFile file] called exchanges now := by
  have writes : (SymbolFile.callPresent file .finish [.objectFile file]).Writes True
      begun.library := (reworks_callPresent file .finish [.objectFile file]).rewrites begun.library
  have calling := SymbolFile.conducts_callPresent begun file .finish [.objectFile file]
  have finishing : Conducts (SymbolFile.Calling begun file .finish [.objectFile file])
      (SymbolFile.finish space file) [] begun fun outcome exchanges now =>
        ∃ called, outcome = called.bind (fun _ => .error (now.library.refusal space file)) ∧
          SymbolFile.Called begun file .finish [.objectFile file] called exchanges now := by
    apply (calling.rewritten writes).bind
    · rintro _ exchanges now ⟨called, rewritten⟩
      have still := rewritten.dwindles.unlisted space file known unlisted
      apply (conducts_removeObjectFile_of_unlisted still).mono
      rintro _ _ _ ⟨rfl, rfl, rfl⟩
      exact ⟨.ok (), rfl, called⟩
    · rintro error exchanges now ⟨called, _⟩
      exact ⟨.error error, rfl, called⟩
  apply finishing.bind
  · rintro _ exchanges now ⟨called, ok, _⟩
    cases called <;> cases ok
  · rintro error exchanges now ⟨called, raised, ended⟩
    refine ⟨called, ?_, ended⟩
    cases called <;> cases raised <;> rfl

end Conducts

/-! ### The statement about runs -/

/-- Where a finish stands that calls `function` and will be refused: it waits for the
reply to the next call of that invocation, or it has had all of them. What was raised
then ends it, and otherwise the assertion of the removal does. -/
inductive Refusing (space : SpaceId) (file : ObjectFileId) (outset : Moment)
    (function : TableFunction) (receiver : Receiver) (exchanges : List Exchange) : Moment → Prop
  | waiting {now : World} {request : Call} {next : Reply → Routine Result}
      (asking : function.Asking (some receiver) [.objectFile file]
        (outset.note (.started (.finishSymbolFile space file))) exchanges now request) :
      Refusing space file outset function receiver exchanges
        { now.note (.called (.finishSymbolFile space file) request) with
          pending :=
            { operation := .finishSymbolFile space file, request := request, next := next } ::
              outset.pending }
  | ended {now : World} {returned : Except Raised Value}
      (ending : function.Ending (some receiver) [.objectFile file]
        (outset.note (.started (.finishSymbolFile space file))) returned exchanges now) :
      Refusing space file outset function receiver exchanges
        { now.note (.finished (.finishSymbolFile space file)
            (returned.bind fun _ => .error (now.library.refusal space file))) with
          pending := outset.pending }

/-- The calls that a refused finish has made, and the one that it waits for. -/
theorem Refusing.requested {space : SpaceId} {file : ObjectFileId} {outset later : Moment}
    {function : TableFunction} {receiver : Receiver} {exchanges : List Exchange}
    (refusing : Refusing space file outset function receiver exchanges later) :
    requested exchanges <+: [function.request (some receiver) [.objectFile file]] := by
  cases refusing with
  | waiting asking => exact (List.prefix_append _ _).trans asking.requests.requested
  | ended ending => exact ending.completes.requested.1

/-- Finishing an object file with a table in a space that does not list it, in any run.
If the active table has no function for this, the finish fails with the assertion of
the removal, and nothing else happens. Otherwise this function is called as a method of
the table, once. If the table is a shadow, the record of the call is written before and,
if the call comes to a result, that of the result after it; the function of a reader's
own table has no records. What one of these calls throws ends the finish, and when they
have returned, it fails with the assertion of the removal. Apart from what clients do
during the calls nothing happens to the library but that address tokens are given out.
Of all finishes of an object file one at most returns normally. -/
theorem Reachable.finish_refused_late {moment : Moment} (reachable : Reachable .free moment)
    {file : ObjectFileId} {table : TableRef}
    (active : moment.library.tableOf? file = some table) :
    (∀ space, file ∉ moment.library.owned space → ∀ exchanges later,
      Dialogue .free (.finishSymbolFile space file) moment exchanges later →
      (moment.library.function? table .finish = none ∧ exchanges = [] ∧
        later = { (moment.note (.started (.finishSymbolFile space file))).note
          (.finished (.finishSymbolFile space file)
            (.error (moment.library.refusal space file))) with pending := moment.pending }) ∨
      ∃ function, moment.library.function? table .finish = some function ∧
        ((table.Real ∧ ∃ client, function = .client client) ∨
          (¬table.Real ∧ ∃ host inner target,
            function = .forward (moment.library.forwarding host (some .finish) inner) target)) ∧
        Refusing space file moment function (.table table) exchanges later ∧
        requested exchanges <+: [function.request (some (.table table)) [.objectFile file]]) ∧
    moment.finishes file ≤ 1 := by
  refine ⟨?_, reachable.finishes_le_one file⟩
  intro space unlisted exchanges later dialogue
  have known : file.index <
      (moment.note (.started (.finishSymbolFile space file))).library.objectFiles.length :=
    moment.library.lt_of_isSome_tableOf? (by rw [active]; rfl)
  have standing := dialogue.standing reachable (conducts_refusal known unlisted)
  have forwards : ∀ {function : TableFunction},
      moment.library.function? table .finish = some function →
      (table.Real ∧ ∃ client, function = .client client) ∨
        (¬table.Real ∧ ∃ host inner target,
          function = .forward (moment.library.forwarding host (some .finish) inner) target) := by
    intro function present
    have looked : moment.library.method? table (some .finish) =
        some (.table table, function) := by
      rw [Library.method?_some, present]
      rfl
    exact reachable.begun_free.own_or_forwards looked
  have arrives : ∀ {function : TableFunction} {later : Moment},
      Refusing space file moment function (.table table) exchanges later →
      Refusing space file moment function (.table table) exchanges later ∧
        requested exchanges <+: [function.request (some (.table table)) [.objectFile file]] :=
    fun refusing => ⟨refusing, refusing.requested⟩
  cases standing with
  | waiting calling onward =>
    obtain ⟨tabled, present, asking⟩ := calling
    cases active.symm.trans tabled
    exact Or.inr ⟨_, present, forwards present, arrives (.waiting asking)⟩
  | ended meets =>
    obtain ⟨called, rfl, ending⟩ := meets
    cases ending with
    | bare missing => cases active.symm.trans missing
    | absent tabled missing =>
      cases active.symm.trans tabled
      exact Or.inl ⟨missing, rfl, rfl⟩
    | @ended _ function returned _ _ tabled present ending =>
      cases active.symm.trans tabled
      have outcomeEq : ∀ raised : Raised, (returned.map fun _ => ()).bind (fun _ => .error raised) =
          returned.bind fun _ => (.error raised : Except Raised Result) := by
        intro raised
        cases returned <;> rfl
      rw [outcomeEq]
      exact Or.inr ⟨function, present, forwards present, arrives (.ended ending)⟩

/-- A reader's table with a function for finishing. -/
def ReaderTable.finishing : ReaderTable :=
  { functions := fun slot =>
      { own := none
        behind := if slot = .finish then some { index := 0 } else none }
    probes := { own := none, behind := none } }

/-- Two program spaces, the first of which lists an object file whose reader is
told to finish. -/
def Moment.finishable : Moment :=
  let made := ((Moment.initial.start (.createSpace none)).start (.createSpace none)).start
    (.newReaderTable .finishing)
  (made.start (.addObjectFile { index := 0 } "a.out" none)).start
    (.setTable { index := 0 } (.reader { index := 0 }))

theorem reachable_finishable : Reachable .free Moment.finishable := by
  have may : ∀ {moment : Moment} {operation : Operation},
      Rules.free moment (.started operation) := fun _ _ => trivial
  have first := Reachable.start (.createSpace none) .initial trivial may
  have second := Reachable.start (.createSpace none) first trivial may
  have made := Reachable.start (.newReaderTable .finishing) second
    (fun _ found => by cases found) may
  have added := Reachable.start (.addObjectFile { index := 0 } "a.out" none) made trivial may
  exact Reachable.start (.setTable { index := 0 } (.reader { index := 0 })) added Nat.zero_lt_one
    may

/-- The reader's function has returned and the finish with the other space has failed.
While the debug setting is on, this takes three calls. -/
theorem finish_refused_late_finishable :
    ∃ exchanges later function receiver,
      Dialogue .free (.finishSymbolFile { index := 1 } { index := 0 })
        (Moment.finishable.start (.setDebug true)) exchanges later ∧
      (exchanges.map fun exchange => exchange.request) =
        [.write .console "sf->finish (a.out)",
          .function { index := 0 } (some (.table (.reader { index := 0 })))
            [.objectFile { index := 0 }],
          .write .console "sf->finish (...) = true"] ∧
      later.history.getLast? = some (.finished (.finishSymbolFile { index := 1 } { index := 0 })
        (.error (later.library.refusal { index := 1 } { index := 0 }))) ∧
      Refusing { index := 1 } { index := 0 } (Moment.finishable.start (.setDebug true)) function
        receiver exchanges later := by
  have may : ∀ {moment : Moment} {happening : Happening}, Rules.free moment happening :=
    fun _ _ => trivial
  have reachable : Reachable .free (Moment.finishable.start (.setDebug true)) :=
    .start (.setDebug true) reachable_finishable trivial may
  have active : (Moment.finishable.start (.setDebug true)).library.tableOf? { index := 0 } =
      some (.shadow { index := 0 }) := rfl
  have unlisted : ({ index := 0 } : ObjectFileId) ∉
      (Moment.finishable.start (.setDebug true)).library.owned { index := 1 } := by decide
  have asked : Dialogue .free (.finishSymbolFile { index := 1 } { index := 0 })
      (Moment.finishable.start (.setDebug true)) [] _ := .start trivial may
  have announced := asked.resume (.returned .absent) rfl .refl rfl may
  have called := announced.resume (.returned (.boolean true)) rfl .refl rfl may
  have reported := called.resume (.returned .absent) rfl .refl rfl may
  obtain ⟨refusals, _⟩ := reachable.finish_refused_late active
  rcases refusals _ unlisted _ _ reported with ⟨_, impossible, _⟩ | ⟨function, _, _, refusing, _⟩
  · cases impossible
  · exact ⟨_, _, function, _, reported, by decide, rfl, refusing⟩

/-- The reader's function is called for a file that the space does not list, and
again when the finish is repeated. -/
theorem finish_calls_unlisted :
    Reachable .free Moment.finishable ∧
    Moment.finishable.library.tableOf? { index := 0 } = some (.reader { index := 0 }) ∧
    { index := 0 } ∉ Moment.finishable.library.owned { index := 1 } ∧
    (∃ frame, (Moment.finishable.start
        (.finishSymbolFile { index := 1 } { index := 0 })).pending = [frame] ∧
      frame.request = .function { index := 0 } (some (.table (.reader { index := 0 })))
        [.objectFile { index := 0 }]) ∧
    ∃ frame, (((Moment.finishable.start (.finishSymbolFile { index := 1 } { index := 0 })).answer
        (.returned .absent)).start
          (.finishSymbolFile { index := 1 } { index := 0 })).pending = [frame] ∧
      frame.request = .function { index := 0 } (some (.table (.reader { index := 0 })))
        [.objectFile { index := 0 }] :=
  ⟨reachable_finishable, rfl, by decide, ⟨_, rfl, rfl⟩, ⟨_, rfl, rfl⟩⟩

end ReaderTrace
