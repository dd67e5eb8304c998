import ReaderTrace.Proofs.Coupling
import ReaderTrace.Proofs.Lookup

/-!
Calls and records, coupled.

Records come and go on the traced side alone. A call through the active table
and a call of a quick function are made on both sides, and what they answer is
handed on alike.
-/

namespace ReaderTrace

open Routine Coupled

variable {view : Call → Call} {now : World} {plain : Library}

/-! ### Calls and records -/

section Calls

variable {α β : Type}

theorem coupled_andThen {left right : Routine α} {leftNext rightNext : α → Routine β}
    (first : Coupled view Alike left now right plain)
    (second : ∀ value later replied, Agree later.library replied →
      Coupled view Alike (leftNext value) later (rightNext value) replied) :
    Coupled view Alike (left >>= leftNext) now (right >>= rightNext) plain := by
  refine Coupled.bind (first.mono ?_)
  intro outcome other later replied ⟨same, agree⟩
  subst same
  cases outcome with
  | ok value => exact second value later replied agree
  | error raised => exact ⟨rfl, agree⟩

theorem coupled_map {left right : Routine α} {reword : α → β}
    (first : Coupled view Alike left now right plain) :
    Coupled view Alike (left >>= fun value => pure (reword value)) now
      (right >>= fun value => pure (reword value)) plain :=
  coupled_andThen first fun value _ _ agree => pure_alike (reword value) agree

theorem coupled_discard {left right : Routine α}
    (first : Coupled view Alike left now right plain) :
    Coupled view Alike (discard left) now (discard right) plain :=
  coupled_map first

theorem coupled_finally {left right : Routine α} {leftNext : α → Routine α}
    (first : Coupled view Alike left now right plain)
    (second : ∀ value later replied, Agree later.library replied →
      Coupled view Alike (leftNext value) later (pure value) replied) :
    Coupled view Alike (left >>= leftNext) now right plain := by
  have whole := coupled_andThen first second
  have rightEq : (right >>= fun value => pure value) = right := Routine.bind_done right
  rw [rightEq] at whole
  exact whole

theorem coupled_ask {request other : Call} (agree : Agree now.library plain)
    (asks : ¬request.IsRecord) (viewed : view request = other) :
    Coupled view Alike (Routine.ask request) now (Routine.ask other) plain := by
  refine .call agree asks viewed fun reply later replied _ _ agreed => ?_
  cases reply <;> exact .done ⟨rfl, agreed⟩

theorem alone_writeRecord (record : String) (agree : Agree now.library plain) :
    Coupled view Alone (discard (Routine.writeRecord record)) now (pure ()) plain := by
  refine .readLeft (.record fun value later _ unchanged => .done ⟨⟨_, rfl⟩, rfl, ?_⟩)
  rw [unchanged]
  exact agree

theorem alone_renderAll (values : List Value) (agree : Agree now.library plain) :
    Coupled view Alone (Routine.edit (Edit.renderAll values)) now (pure ()) plain :=
  edit_alone ⟨⟨_, rfl⟩, rfl, agree.addressed _ _⟩

theorem alone_render (value : Value) (agree : Agree now.library plain) :
    Coupled view Alone (Routine.edit (Edit.render value)) now (pure ()) plain :=
  edit_alone ⟨⟨_, rfl⟩, rfl, agree.addressed _ _⟩

theorem coupled_forward {how : Forwarding} {id : FunctionId}
    {receiver plainReceiver : Option Receiver} {arguments : List Value}
    (viewed : view (.function id (some how.receiver) arguments) =
      .function id plainReceiver arguments)
    (agree : Agree now.library plain) :
    Coupled view Alike ((TableFunction.forward how (.client id)).invoke receiver arguments) now
      ((TableFunction.client id).invoke plainReceiver arguments) plain := by
  refine bind_alone (alone_renderAll _ agree) fun texts _ _ rendered => ?_
  refine bind_alone (alone_writeRecord _ rendered) fun _ _ _ recorded => ?_
  refine coupled_finally (coupled_ask recorded not_false viewed) fun result _ _ returned => ?_
  split
  · refine bind_alone (alone_render result returned) fun text _ _ shown => ?_
    refine bind_alone (alone_writeRecord _ shown) fun _ _ _ closed => ?_
    exact pure_alike result closed
  · exact pure_alike result returned

/-- A call through the active table reaches the client's function with the same
receiver as the plain call. -/
theorem coupled_method {function : TableFunction} {receiver received : Receiver} {id : FunctionId}
    (stands : Stands function receiver id received) (arguments : List Value)
    (agree : Agree now.library plain) :
    Coupled (fun request => request) Alike (function.invoke (some receiver) arguments) now
      ((TableFunction.client id).invoke (some received) arguments) plain := by
  rcases stands with ⟨functionEq, receiverEq⟩ | ⟨how, functionEq, receiverEq⟩
  · subst functionEq
    subst receiverEq
    exact coupled_ask agree not_false rfl
  · subst functionEq
    subst receiverEq
    exact coupled_forward rfl agree

def Call.unbound : Call → Call
  | .function id _ arguments => .function id none arguments
  | request => request

/-- A function that was taken out of the active table reaches the client's
function too, though the shadow's has a receiver for it. -/
theorem coupled_detached {function : TableFunction} {receiver received : Receiver}
    {id : FunctionId} (stands : Stands function receiver id received) (arguments : List Value)
    (agree : Agree now.library plain) :
    Coupled Call.unbound Alike (function.invoke none arguments) now
      ((TableFunction.client id).invoke none arguments) plain := by
  rcases stands with ⟨functionEq, _⟩ | ⟨how, functionEq, _⟩
  · subst functionEq
    exact coupled_ask agree not_false rfl
  · subst functionEq
    exact coupled_forward rfl agree

end Calls

/-! ### Table operations -/

section Tables

variable {β : Type}

theorem coupled_activeTable {file : ObjectFileId} {left right : TableRef → Routine β}
    (agree : Agree now.library plain)
    (rest : ∀ table base, now.library.tableOf? file = some table →
      plain.tableOf? file = some base →
      Coupled view Alike (left table) now (right base) plain) :
    Coupled view Alike (liftM (SymbolFile.activeTable file) >>= left) now
      (liftM (SymbolFile.activeTable file) >>= right) plain := by
  change Coupled view Alike (Routine.edit (SymbolFile.activeTable file) >>= left) now
    (Routine.edit (SymbolFile.activeTable file) >>= right) plain
  refine Coupled.bind (Coupled.edit ?_)
  unfold World.after
  rcases agree.active_cases file with ⟨tracedEq, plainEq⟩ | ⟨table, base, tracedEq, plainEq⟩
  · rw [SymbolFile.apply_activeTable, SymbolFile.apply_activeTable, tracedEq, plainEq,
      agree.debugName]
    exact ⟨rfl, agree⟩
  · rw [SymbolFile.apply_activeTable, SymbolFile.apply_activeTable, tracedEq, plainEq]
    exact rest table base tracedEq plainEq

theorem coupled_presentNames (file : ObjectFileId) (agree : Agree now.library plain) :
    Coupled view Alike (Operation.presentNamesOf (.active file)) now
      (Operation.presentNamesOf (.active file)) plain := by
  refine Coupled.library ?_
  unfold TableSource.table?
  rcases agree.active_cases file with ⟨tracedEq, plainEq⟩ | ⟨table, base, tracedEq, plainEq⟩
  · simp only [tracedEq, plainEq]
    exact pure_alike _ agree
  · simp only [tracedEq, plainEq, agree.presentNames tracedEq plainEq]
    exact pure_alike _ agree

theorem coupled_callMethod (file : ObjectFileId) (method : Option Slot) (arguments : List Value)
    (agree : Agree now.library plain) :
    Coupled (fun request => request) Alike
      (Operation.invoke (.active file) method arguments false) now
      (Operation.invoke (.active file) method arguments false) plain := by
  refine Coupled.library ?_
  unfold TableSource.table?
  rcases agree.active_cases file with ⟨tracedEq, plainEq⟩ | ⟨table, base, tracedEq, plainEq⟩
  · simp only [tracedEq, plainEq, Option.bind_none]
    exact pure_alike _ agree
  · simp only [tracedEq, plainEq, Option.bind_some]
    rcases agree.method? tracedEq plainEq method with ⟨noTraced, noPlain⟩ | found
    · rw [noTraced, noPlain]
      exact pure_alike _ agree
    · obtain ⟨receiver, function, received, id, tracedFound, plainFound, stands⟩ := found
      rw [tracedFound, plainFound]
      exact coupled_map (coupled_method stands arguments agree)

end Tables

/-! ### Quick functions -/

section QuickFunctions

theorem coupled_quickAsk (functions : QuickId) (function : QuickFunction) (file : ObjectFileId)
    (arguments : List Value) (agree : Agree now.library plain) :
    Coupled (fun request => request) Alike (Quick.ask functions function file arguments) now
      (Quick.ask functions function file arguments) plain :=
  coupled_ask agree not_false rfl

/-- The parts of a record are rendered on both sides, though the texts may show
other tokens. -/
private theorem coupled_renderParts (parts : List RecordPart) (agree : Agree now.library plain) :
    Coupled view
      (fun outcome other later replied => (∃ texts others, outcome = .ok texts ∧
        other = .ok others) ∧ Agree later.library replied)
      (Routine.edit (Quick.renderParts parts)) now (Routine.edit (Quick.renderParts parts))
      plain := by
  obtain ⟨texts, book, applied⟩ := Quick.apply_renderParts parts now.library
  obtain ⟨others, otherBook, otherApplied⟩ := Quick.apply_renderParts parts plain
  refine Coupled.edit ?_
  unfold World.after
  rw [applied, otherApplied]
  exact ⟨⟨texts, others, rfl, rfl⟩, agree.addressed book otherBook⟩

/-- Whether a result can be recorded where the objects of clients hold `contents`. -/
def ResultKind.Shows (contents : ObjectId → Content) : ResultKind → Value → Prop
  | .unrecorded, _ => True
  | .value, _ => True
  | .symtab, result =>
      result = .null ∨ ∃ id filename, result = .reference (.object id) ∧
        contents id = .symtab filename
  | .compunit, result =>
      result = .null ∨ ∃ id filename, result = .reference (.object id) ∧
        contents id = .compunit filename

theorem shows_of_mayReturn {contents : ObjectId → Content} {request : QuickRequest Value}
    {result : Value} (returned : request.function.MayReturn contents result) :
    request.resultKind.Shows contents result := by
  cases request <;> exact returned

theorem shows_fallback (contents : ObjectId → Content) (request : QuickRequest Value) :
    request.resultKind.Shows contents request.fallback := by
  cases request <;> first | exact Or.inl rfl | exact trivial

private theorem apply_fileName {kept : Content → Option String} {library : Library}
    {object : ObjectId} {filename : String}
    (found : kept (library.contents object) = some filename) :
    (Quick.fileName kept object).apply library = (.ok (some filename), library) := by
  rw [Quick.apply_fileName, found]

private theorem apply_renderResult {kind : ResultKind} {result : Value} {library : Library}
    (shows : kind.Shows library.contents result) :
    ∃ text book, (Quick.renderResult kind result).apply library =
      (.ok text, { library with addresses := book }) := by
  cases kind with
  | unrecorded => exact ⟨none, library.addresses, rfl⟩
  | value => exact ⟨_, _, rfl⟩
  | symtab =>
    rcases shows with rfl | ⟨id, filename, rfl, kept⟩
    · exact ⟨_, library.addresses, rfl⟩
    · exact ⟨_, library.addresses, apply_fileName (congrArg Content.symtab? kept)⟩
  | compunit =>
    rcases shows with rfl | ⟨id, filename, rfl, kept⟩
    · exact ⟨_, library.addresses, rfl⟩
    · exact ⟨_, library.addresses, apply_fileName (congrArg Content.compunit? kept)⟩

private theorem alone_renderResult {kind : ResultKind} {result : Value}
    (shows : kind.Shows now.library.contents result) (agree : Agree now.library plain) :
    Coupled view Alone (Routine.edit (Quick.renderResult kind result)) now (pure ()) plain := by
  obtain ⟨text, book, applied⟩ := apply_renderResult shows
  refine edit_alone ?_
  unfold World.after
  rw [applied]
  exact ⟨⟨text, rfl⟩, rfl, agree.addressed book plain.addresses⟩

theorem alone_recordCall (debug : Bool) (name : String) (request : QuickRequest Value)
    (texts : List String) (agree : Agree now.library plain) :
    Coupled view Alone (Quick.recordCall debug name request texts) now (pure ()) plain := by
  unfold Quick.recordCall
  split
  · exact alone_writeRecord _ agree
  · exact .done ⟨⟨(), rfl⟩, rfl, agree⟩

theorem alone_recordResult (debug : Bool) {request : QuickRequest Value} {result : Value}
    (shows : request.resultKind.Shows now.library.contents result)
    (agree : Agree now.library plain) :
    Coupled view Alone (Quick.recordResult debug request result) now (pure ()) plain := by
  unfold Quick.recordResult
  split
  · refine bind_alone (alone_renderResult shows agree) fun text _ _ rendered => ?_
    cases text with
    | none => exact .done ⟨⟨(), rfl⟩, rfl, rendered⟩
    | some text => exact alone_writeRecord _ rendered
  · exact .done ⟨⟨(), rfl⟩, rfl, agree⟩

theorem coupled_consult (functions : Option QuickId) (file : ObjectFileId)
    (request : QuickRequest Value) (agree : Agree now.library plain) :
    Coupled (fun request => request)
      (fun outcome other later replied => Alike outcome other later replied ∧
        ∀ result, outcome = .ok result →
          request.resultKind.Shows later.library.contents result)
      (Quick.consult functions file request) now (Quick.consult functions file request) plain := by
  cases functions with
  | none =>
    refine .done ⟨⟨rfl, agree⟩, ?_⟩
    intro result same
    cases same
    exact shows_fallback _ request
  | some functions =>
    refine .call agree not_false rfl fun reply later replied admitted _ agreed => ?_
    cases reply with
    | returned value =>
      refine .done ⟨⟨rfl, agreed⟩, ?_⟩
      intro result same
      cases same
      exact shows_of_mayReturn admitted
    | thrown value =>
      refine .done ⟨⟨rfl, agreed⟩, ?_⟩
      intro result same
      cases same

theorem coupled_access (file : ObjectFileId) (request : QuickRequest Value)
    (agree : Agree now.library plain) :
    Coupled (fun request => request) Alike (Quick.access file request) now
      (Quick.access file request) plain := by
  refine Coupled.bind ((coupled_renderParts request.recorded agree).mono ?_)
  intro outcome other before beside ⟨⟨texts, others, ended, endedBeside⟩, rendered⟩
  subst ended
  subst endedBeside
  refine Coupled.library ?_
  -- The plain library never logs, so there is nothing to its part of the records.
  rw [rendered.off, rendered.quickOf?]
  change Coupled _ Alike (Quick.recordCall before.library.debug _ request texts >>= _) before
    (Quick.consult (before.library.quickOf? file) file request >>= _) beside
  refine bind_alone (alone_recordCall _ _ request texts rendered) fun _ _ _ agreed => ?_
  refine Coupled.bind ((coupled_consult _ file request agreed).mono ?_)
  intro outcome other answered returned ⟨⟨same, agreeAfter⟩, shows⟩
  subst same
  cases outcome with
  | error raised => exact ⟨rfl, agreeAfter⟩
  | ok result =>
    refine Coupled.library ?_
    rw [agreeAfter.off]
    refine bind_alone (alone_recordResult _ (shows result rfl) agreeAfter) fun _ _ _ closed => ?_
    exact pure_alike _ closed

theorem coupled_couldRead (functions : QuickId) (file : ObjectFileId)
    (agree : Agree now.library plain) :
    Coupled (fun request => request) Alike (Quick.couldRead functions file) now
      (Quick.couldRead functions file) plain := by
  refine Coupled.library ?_
  dsimp only
  rw [agree.partialSymbolsRead, agree.quickFunctions]
  split
  · exact coupled_map (coupled_ask agree not_false rfl)
  · exact pure_alike _ agree

theorem coupled_haveSymbols (functions : Option QuickId) (file : ObjectFileId)
    (agree : Agree now.library plain) :
    Coupled (fun request => request) Alike (Quick.haveSymbols functions file) now
      (Quick.haveSymbols functions file) plain := by
  cases functions with
  | none => exact pure_alike _ agree
  | some functions =>
    refine coupled_andThen (coupled_couldRead functions file agree) fun lazily _ _ agreed => ?_
    split
    · exact pure_alike _ agreed
    · exact coupled_quickAsk functions _ file _ agreed

theorem alone_recordAnswer (debug : Bool) (name : String) (answer : Value)
    (agree : Agree now.library plain) :
    Coupled view Alone (Quick.recordAnswer debug name answer) now (pure ()) plain := by
  unfold Quick.recordAnswer
  split
  · refine bind_alone (alone_render answer agree) fun text _ _ rendered => ?_
    exact alone_writeRecord _ rendered
  · exact .done ⟨⟨(), rfl⟩, rfl, agree⟩

theorem coupled_hasPartialSymbols (file : ObjectFileId) (agree : Agree now.library plain) :
    Coupled (fun request => request) Alike (Quick.hasPartialSymbols file) now
      (Quick.hasPartialSymbols file) plain := by
  refine Coupled.library ?_
  rw [agree.quickOf?]
  refine coupled_andThen (coupled_haveSymbols _ file agree) fun answer _ _ agreed => ?_
  refine Coupled.library ?_
  rw [agreed.off]
  refine bind_alone (alone_recordAnswer _ _ answer agreed) fun _ _ _ closed => ?_
  exact pure_alike answer closed

theorem coupled_symbolLanguage (file : ObjectFileId) (name : String) (domain : Domain)
    (agree : Agree now.library plain) :
    Coupled (fun request => request) Alike (Quick.symbolLanguage file name domain) now
      (Quick.symbolLanguage file name domain) plain := by
  refine Coupled.library ?_
  rw [agree.quickOf?]
  cases now.library.quickOf? file with
  | none => exact pure_alike _ agree
  | some functions =>
    refine coupled_andThen (coupled_quickAsk functions _ file _ agree) fun answer _ _ agreed => ?_
    refine Coupled.library ?_
    rw [agreed.languageIn?]
    split
    · exact pure_alike _ agreed
    · exact raise_alike _ agreed

end QuickFunctions

end ReaderTrace
