import ReaderTrace.Proofs.Trail

/-!
The dialogue of one operation with its clients, from its start to its end.

A trail says what an operation asks. A dialogue says besides in which world the
operation goes on after each reply, and it ends when the operation does. A routine
conducts its dialogue from whatever state the edits of others may have led to, and
what is shown of it so holds of each dialogue in a run.
-/

namespace ReaderTrace

open Routine

/-- A call that was answered, with the world in which the operation goes on. -/
structure Exchange extends Round where
  resumed : World

/-- The world in which an operation that began at `begun` had control last
when it was given control. -/
def World.latest (begun : World) (exchanges : List Exchange) : World :=
  (exchanges.getLast?.map Exchange.resumed).getD begun

@[simp] theorem World.latest_append (begun : World) (exchanges : List Exchange)
    (exchange : Exchange) : begun.latest (exchanges ++ [exchange]) = exchange.resumed := by
  simp [latest]

/-- An operation was started at the moment `outset`, its own calls were answered,
and this brought it to the moment. -/
inductive Dialogue (rules : Rules) (operation : Operation) (outset : Moment) :
    List Exchange → Moment → Prop
  | start (admissible : operation.Admissible outset.library)
      (permitted : rules outset (.started operation)) :
      Dialogue rules operation outset [] (outset.start operation)
  | resume {exchanges : List Exchange} {made later : Moment} {frame : Frame} (reply : Reply)
      (before : Dialogue rules operation outset exchanges made)
      (asked : made.pending = frame :: outset.pending)
      (meanwhile : Meanwhile rules (frame :: outset.pending) made later)
      (answers : later.pending = frame :: outset.pending)
      (permitted : rules later (.answered frame.operation frame.request reply)) :
      Dialogue rules operation outset
        (exchanges ++ [{ library := made.library, request := frame.request, reply := reply
                         resumed := later.note (.answered frame.operation frame.request reply) }])
        (later.resume frame outset.pending reply)

namespace Routine

variable {α β : Type} (during : List Exchange → World → Call → Prop)

/-- From the world `now`, after `exchanges`, a routine calls only as `during`
allows and ends as `post` says, whatever single edits are made while it waits. -/
def Conducts : Routine α → List Exchange → World →
    (Except Raised α → List Exchange → World → Prop) → Prop
  | .done outcome, exchanges, now, post => post outcome exchanges now
  | .read next, exchanges, now, post => Conducts (next now.library) exchanges now post
  | .write library next, exchanges, now, post =>
      Conducts next exchanges { now with library := library } post
  | .call request next, exchanges, now, post =>
      during exchanges now request ∧
        ∀ reply later, Rewritten True now.library later.library →
          Conducts (next reply)
            (exchanges ++ [{ library := now.library, request := request, reply := reply
                             resumed := later }]) later post
  | .mark milestone next, exchanges, now, post =>
      Conducts next exchanges (now.note (.reached milestone)) post

variable {during} {exchanges : List Exchange} {now : World}

theorem Conducts.mono {routine : Routine α}
    {post weaker : Except Raised α → List Exchange → World → Prop}
    (conducts : Conducts during routine exchanges now post)
    (implies : ∀ outcome exchanges later, post outcome exchanges later →
      weaker outcome exchanges later) :
    Conducts during routine exchanges now weaker := by
  induction routine generalizing exchanges now with
  | done outcome => exact implies outcome exchanges now conducts
  | read next ih => exact ih now.library conducts
  | write library next ih => exact ih conducts
  | call request next ih =>
    exact ⟨conducts.1, fun reply later rewritten => ih reply (conducts.2 reply later rewritten)⟩
  | mark milestone next ih => exact ih conducts

/-- What is allowed may be described less closely. -/
theorem Conducts.allow {routine : Routine α} {weaker : List Exchange → World → Call → Prop}
    {post : Except Raised α → List Exchange → World → Prop}
    (conducts : Conducts during routine exchanges now post)
    (implies : ∀ exchanges now request, during exchanges now request →
      weaker exchanges now request) :
    Conducts weaker routine exchanges now post := by
  induction routine generalizing exchanges now with
  | done outcome => exact conducts
  | read next ih => exact ih now.library conducts
  | write library next ih => exact ih conducts
  | call request next ih =>
    exact ⟨implies exchanges now request conducts.1,
      fun reply later rewritten => ih reply (conducts.2 reply later rewritten)⟩
  | mark milestone next ih => exact ih conducts

theorem Conducts.bind {routine : Routine α} {next : α → Routine β}
    {middle : Except Raised α → List Exchange → World → Prop}
    {post : Except Raised β → List Exchange → World → Prop}
    (first : Conducts during routine exchanges now middle)
    (second : ∀ value exchanges later, middle (.ok value) exchanges later →
      Conducts during (next value) exchanges later post)
    (raised : ∀ error exchanges later, middle (.error error) exchanges later →
      post (.error error) exchanges later) :
    Conducts during (routine >>= next) exchanges now post := by
  change Conducts during (routine.bind next) exchanges now post
  induction routine generalizing exchanges now with
  | done outcome =>
    cases outcome with
    | ok value => exact second value exchanges now first
    | error error => exact raised error exchanges now first
  | read rest ih => exact ih now.library first
  | write library rest ih => exact ih first
  | call request rest ih =>
    exact ⟨first.1, fun reply later rewritten => ih reply (first.2 reply later rewritten)⟩
  | mark milestone rest ih => exact ih first

/-- A dialogue of which nothing is asked. -/
theorem conducts_any (routine : Routine α) :
    Conducts (fun _ _ _ => True) routine exchanges now fun _ _ _ => True := by
  induction routine generalizing exchanges now with
  | done outcome => exact trivial
  | read next ih => exact ih now.library
  | write library next ih => exact ih
  | call request next ih => exact ⟨trivial, fun reply later _ => ih reply⟩
  | mark milestone next ih => exact ih

/-- What a routine changes and what others change meanwhile add up. -/
theorem Conducts.rewritten {routine : Routine α}
    {post : Except Raised α → List Exchange → World → Prop}
    (conducts : Conducts during routine exchanges now post)
    (writes : routine.Writes True now.library) :
    Conducts during routine exchanges now fun outcome exchanges later =>
      post outcome exchanges later ∧ Rewritten True now.library later.library := by
  induction routine generalizing exchanges now with
  | done outcome => exact ⟨conducts, .refl⟩
  | read next ih => exact ih now.library conducts writes
  | write library next ih =>
    have onward := @ih exchanges { now with library := library } conducts writes.2
    exact onward.mono fun _ _ _ ended => ⟨ended.1, writes.1.trans ended.2⟩
  | call request next ih =>
    refine ⟨conducts.1, fun reply later rewritten => ?_⟩
    have onward := ih reply (conducts.2 reply later rewritten) (writes reply later.library)
    exact onward.mono fun _ _ _ ended => ⟨ended.1, rewritten.trans ended.2⟩
  | mark milestone next ih => exact @ih exchanges (now.note (.reached milestone)) conducts writes

theorem conducts_library {next : Library → Routine α}
    {post : Except Raised α → List Exchange → World → Prop}
    (continues : Conducts during (next now.library) exchanges now post) :
    Conducts during (library >>= next) exchanges now post :=
  continues

theorem conducts_edit {change : Edit α} {next : α → Routine β}
    {post : Except Raised β → List Exchange → World → Prop}
    (ok : ∀ value, (change.apply now.library).1 = .ok value →
      Conducts during (next value) exchanges (now.after change) post)
    (raised : ∀ error, (change.apply now.library).1 = .error error →
      post (.error error) exchanges (now.after change)) :
    Conducts during (edit change >>= next) exchanges now post := by
  change Conducts during (Routine.bind (.done (change.apply now.library).1) next) exchanges
    (now.after change) post
  cases outcome : (change.apply now.library).1 with
  | ok value => exact ok value outcome
  | error error => exact raised error outcome

/-- The active table is looked up where one was set. -/
theorem conducts_activeTable {file : ObjectFileId} {table : TableRef} {next : TableRef → Routine β}
    {post : Except Raised β → List Exchange → World → Prop}
    (active : now.library.tableOf? file = some table)
    (continues : Conducts during (next table) exchanges now post) :
    Conducts during (liftM (SymbolFile.activeTable file) >>= next) exchanges now post := by
  have found : (SymbolFile.activeTable file).apply now.library = (.ok table, now.library) := by
    rw [SymbolFile.apply_activeTable, active]
  have unchanged : now.after (SymbolFile.activeTable file) = now := by
    unfold World.after
    rw [found]
  change Conducts _ (Routine.edit (SymbolFile.activeTable file) >>= _) _ _ _
  apply conducts_edit
  · intro other looked
    rw [found] at looked
    cases looked
    rw [unchanged]
    exact continues
  · intro error impossible
    rw [found] at impossible
    cases impossible

/-- The routine has made the one call `request` and has had its reply. -/
def Replies (request : Call) (exchanges : List Exchange) (reply : Reply)
    (after : List Exchange) (later : World) : Prop :=
  ∃ exchange : Exchange, after = exchanges ++ [exchange] ∧ exchange.request = request ∧
    exchange.reply = reply ∧ exchange.resumed = later

theorem conducts_ask {request : Call} (asks : during exchanges now request) :
    Conducts during (ask request) exchanges now fun outcome after later =>
      ∃ reply, Replies request exchanges reply after later ∧ outcome = reply.outcome := by
  refine ⟨asks, fun reply later _ => ?_⟩
  cases reply with
  | returned value => exact ⟨_, ⟨_, rfl, rfl, rfl, rfl⟩, rfl⟩
  | thrown value => exact ⟨_, ⟨_, rfl, rfl, rfl, rfl⟩, rfl⟩

theorem conducts_writeRecord {record : String}
    (asks : during exchanges now (.write now.library.stream record)) :
    Conducts during (discard (writeRecord record)) exchanges now fun outcome after later =>
      ∃ reply, Replies (.write now.library.stream record) exchanges reply after later ∧
        outcome = reply.outcome.map fun _ => () := by
  refine ⟨asks, fun reply later _ => ?_⟩
  cases reply with
  | returned value => exact ⟨_, ⟨_, rfl, rfl, rfl, rfl⟩, rfl⟩
  | thrown value => exact ⟨_, ⟨_, rfl, rfl, rfl, rfl⟩, rfl⟩

end Routine
/-! ### Dialogues with usual exchanges -/

namespace Routine

variable {α β : Type}

/-- A routine conducts its dialogue as long as every exchange is usual. Nothing is
claimed once one was not. -/
def ConductsWhile (usual : Exchange → Prop) (during : List Exchange → World → Call → Prop)
    (routine : Routine α) (exchanges : List Exchange) (now : World)
    (post : Except Raised α → List Exchange → World → Prop) : Prop :=
  Conducts
    (fun exchanges now request =>
      (∀ exchange ∈ exchanges, usual exchange) → during exchanges now request)
    routine exchanges now
    fun outcome exchanges later =>
      (∀ exchange ∈ exchanges, usual exchange) → post outcome exchanges later

variable {usual : Exchange → Prop} {during : List Exchange → World → Call → Prop}
  {exchanges : List Exchange} {now : World}

theorem conductsWhile_unusual {post : Except Raised α → List Exchange → World → Prop}
    (routine : Routine α) (odd : ¬∀ exchange ∈ exchanges, usual exchange) :
    ConductsWhile usual during routine exchanges now post := by
  induction routine generalizing exchanges now with
  | done outcome => exact fun all => absurd all odd
  | read next ih => exact ih now.library odd
  | write library next ih => exact ih odd
  | call request next ih =>
    refine ⟨fun all => absurd all odd, fun reply later _ => ih reply ?_⟩
    exact fun all => odd fun exchange member => all exchange (List.mem_append_left _ member)
  | mark milestone next ih => exact ih odd

theorem ConductsWhile.mono {routine : Routine α}
    {post weaker : Except Raised α → List Exchange → World → Prop}
    (conducts : ConductsWhile usual during routine exchanges now post)
    (implies : ∀ outcome exchanges later, post outcome exchanges later →
      weaker outcome exchanges later) :
    ConductsWhile usual during routine exchanges now weaker :=
  Conducts.mono conducts fun outcome exchanges later ended all =>
    implies outcome exchanges later (ended all)

theorem ConductsWhile.allow {routine : Routine α} {weaker : List Exchange → World → Call → Prop}
    {post : Except Raised α → List Exchange → World → Prop}
    (conducts : ConductsWhile usual during routine exchanges now post)
    (implies : ∀ exchanges now request, during exchanges now request →
      weaker exchanges now request) :
    ConductsWhile usual weaker routine exchanges now post :=
  Conducts.allow conducts fun exchanges now request asks all =>
    implies exchanges now request (asks all)

theorem Conducts.conductsWhile {routine : Routine α}
    {post : Except Raised α → List Exchange → World → Prop}
    (conducts : Conducts during routine exchanges now post) :
    ConductsWhile usual during routine exchanges now post :=
  Conducts.mono (conducts.allow fun _ _ _ asks _ => asks) fun _ _ _ ended _ => ended

theorem ConductsWhile.rewritten {routine : Routine α}
    {post : Except Raised α → List Exchange → World → Prop}
    (conducts : ConductsWhile usual during routine exchanges now post)
    (writes : routine.Writes True now.library) :
    ConductsWhile usual during routine exchanges now fun outcome exchanges later =>
      post outcome exchanges later ∧ Rewritten True now.library later.library :=
  Conducts.mono (Conducts.rewritten conducts writes) fun _ _ _ ended all =>
    ⟨ended.1 all, ended.2⟩

theorem ConductsWhile.bind {routine : Routine α} {next : α → Routine β}
    {middle : Except Raised α → List Exchange → World → Prop}
    {post : Except Raised β → List Exchange → World → Prop}
    (first : ConductsWhile usual during routine exchanges now middle)
    (second : ∀ value exchanges later, middle (.ok value) exchanges later →
      ConductsWhile usual during (next value) exchanges later post)
    (raised : ∀ error exchanges later, middle (.error error) exchanges later →
      post (.error error) exchanges later) :
    ConductsWhile usual during (routine >>= next) exchanges now post := by
  apply Conducts.bind first
  · intro value after later ended
    by_cases all : ∀ exchange ∈ after, usual exchange
    · exact second value after later (ended all)
    · exact conductsWhile_unusual (next value) all
  · exact fun error after later ended all => raised error after later (ended all)

/-- A sequence of which the first part does not fail. -/
theorem ConductsWhile.bind_ok {routine : Routine α} {next : α → Routine β}
    {middle : α → List Exchange → World → Prop}
    {post : Except Raised β → List Exchange → World → Prop}
    (first : ConductsWhile usual during routine exchanges now
      fun outcome after later => ∃ value, outcome = .ok value ∧ middle value after later)
    (second : ∀ value exchanges later, middle value exchanges later →
      ConductsWhile usual during (next value) exchanges later post) :
    ConductsWhile usual during (routine >>= next) exchanges now post := by
  apply first.bind
  · intro value after later ⟨_, same, ended⟩
    cases same
    exact second value after later ended
  · intro error after later ⟨_, impossible, _⟩
    cases impossible

theorem conductsWhile_edit {change : Edit α} {next : α → Routine β}
    {post : Except Raised β → List Exchange → World → Prop}
    (ok : ∀ value, (change.apply now.library).1 = .ok value →
      ConductsWhile usual during (next value) exchanges (now.after change) post)
    (raised : ∀ error, (change.apply now.library).1 = .error error →
      post (.error error) exchanges (now.after change)) :
    ConductsWhile usual during (edit change >>= next) exchanges now post :=
  conducts_edit ok fun error failed _ => raised error failed

/-- The one exchange of a routine that asks is a usual one. -/
theorem conductsWhile_ask {request : Call}
    (asks : (∀ exchange ∈ exchanges, usual exchange) → during exchanges now request) :
    ConductsWhile usual during (ask request) exchanges now fun outcome after later =>
      ∃ exchange : Exchange, after = exchanges ++ [exchange] ∧ usual exchange ∧
        exchange.toAsked = { library := now.library, request := request } ∧
        exchange.resumed = later ∧ outcome = exchange.reply.outcome := by
  refine ⟨asks, fun reply later _ => ?_⟩
  have last : ∀ {exchange : Exchange}, exchange ∈ exchanges ++ [exchange] :=
    List.mem_append_right _ (List.mem_singleton.mpr rfl)
  cases reply with
  | returned value => exact fun all => ⟨_, rfl, all _ last, rfl, rfl, rfl⟩
  | thrown value => exact fun all => ⟨_, rfl, all _ last, rfl, rfl, rfl⟩

theorem conductsWhile_writeRecord {record : String}
    (asks : (∀ exchange ∈ exchanges, usual exchange) →
      during exchanges now (.write now.library.stream record)) :
    ConductsWhile usual during (discard (writeRecord record)) exchanges now
      fun outcome after later => ∃ exchange : Exchange, after = exchanges ++ [exchange] ∧
        usual exchange ∧
        exchange.toAsked =
          { library := now.library, request := .write now.library.stream record } ∧
        exchange.resumed = later ∧ outcome = exchange.reply.outcome.map fun _ => () := by
  change ConductsWhile usual during
    (ask (.write now.library.stream record) >>= fun _ => pure ()) exchanges now _
  apply (conductsWhile_ask asks).bind
  · intro value after later ⟨exchange, afterEq, isUsual, asked, resumed, outcomeEq⟩ _
    exact ⟨exchange, afterEq, isUsual, asked, resumed, by rw [← outcomeEq]; rfl⟩
  · intro error after later ⟨exchange, afterEq, isUsual, asked, resumed, outcomeEq⟩
    exact ⟨exchange, afterEq, isUsual, asked, resumed, by rw [← outcomeEq]; rfl⟩

end Routine

/-! ### Dialogues in a run -/

/-- Where a routine comes to that conducts a dialogue: to a call that is allowed,
or to its end. -/
inductive Standing (during : List Exchange → World → Call → Prop)
    (post : Except Raised Result → List Exchange → World → Prop) (operation : Operation)
    (outer : List Frame) (exchanges : List Exchange) : Moment → Prop
  | waiting {now : World} {request : Call} {next : Reply → Routine Result}
      (asks : during exchanges now request)
      (onward : ∀ reply later, Rewritten True now.library later.library →
        Conducts during (next reply)
          (exchanges ++ [{ library := now.library, request := request, reply := reply
                           resumed := later }]) later post) :
      Standing during post operation outer exchanges
        { now.note (.called operation request) with
          pending := { operation := operation, request := request, next := next } :: outer }
  | ended {now : World} {outcome : Except Raised Result} (meets : post outcome exchanges now) :
      Standing during post operation outer exchanges
        { now.note (.finished operation outcome) with pending := outer }

variable {rules : Rules} {operation : Operation} {outset : Moment} {exchanges : List Exchange}
  {during : List Exchange → World → Call → Prop}
  {post : Except Raised Result → List Exchange → World → Prop}

theorem Routine.Conducts.standing {routine : Routine Result} {now : World}
    (conducts : Conducts during routine exchanges now post) (operation : Operation)
    (outer : List Frame) :
    Standing during post operation outer exchanges
      (Moment.proceed operation outer routine now) := by
  induction routine generalizing now with
  | done outcome => exact .ended conducts
  | read next ih => exact ih now.library conducts
  | write library next ih => exact @ih { now with library := library } conducts
  | call request next _ => exact .waiting conducts.1 conducts.2
  | mark milestone next ih => exact @ih (now.note (.reached milestone)) conducts

theorem Standing.ended_of_finished {outer : List Frame} {moment : Moment}
    {outcome : Except Raised Result}
    (standing : Standing during post operation outer exchanges moment)
    (finished : moment.history.getLast? = some (.finished operation outcome)) :
    ∃ now : World, post outcome exchanges now ∧
      moment = { now.note (.finished operation outcome) with pending := outer } := by
  cases standing with
  | @waiting now request next asks onward =>
    change (now.history ++ [Happening.called operation request]).getLast? = _ at finished
    rw [List.getLast?_concat] at finished
    cases finished
  | @ended now outcome meets =>
    change (now.history ++ [Happening.finished operation outcome]).getLast? = _ at finished
    rw [List.getLast?_concat] at finished
    cases finished
    exact ⟨now, meets, rfl⟩

theorem Dialogue.reachable {moment : Moment} (reachable : Reachable rules outset)
    (dialogue : Dialogue rules operation outset exchanges moment) : Reachable rules moment := by
  induction dialogue with
  | start admissible permitted => exact .start operation reachable admissible permitted
  | resume reply _ _ meanwhile answers permitted ih =>
    exact .resume reply (meanwhile.reachable ih) answers permitted

theorem Meanwhile.weaken {weaker : Rules} {waiting : List Frame} {earlier later : Moment}
    (permits : ∀ moment happening, rules moment happening → weaker moment happening)
    (meanwhile : Meanwhile rules waiting earlier later) :
    Meanwhile weaker waiting earlier later := by
  induction meanwhile with
  | refl => exact .refl
  | start operation _ admissible permitted ih =>
    exact .start operation ih admissible (permits _ _ permitted)
  | resume reply _ answers kept permitted ih =>
    exact .resume reply ih answers kept (permits _ _ permitted)

theorem Dialogue.weaken {weaker : Rules} {moment : Moment}
    (permits : ∀ moment happening, rules moment happening → weaker moment happening)
    (dialogue : Dialogue rules operation outset exchanges moment) :
    Dialogue weaker operation outset exchanges moment := by
  induction dialogue with
  | start admissible permitted => exact .start admissible (permits _ _ permitted)
  | resume reply _ asked meanwhile answers permitted ih =>
    exact .resume reply ih asked (meanwhile.weaken permits) answers (permits _ _ permitted)

/-- How the last exchange of a dialogue came about. -/
theorem Dialogue.resumed {exchange : Exchange} {moment : Moment}
    (dialogue : Dialogue rules operation outset (exchanges ++ [exchange]) moment) :
    ∃ made later frame, Dialogue rules operation outset exchanges made ∧
      made.pending = frame :: outset.pending ∧
      Meanwhile rules (frame :: outset.pending) made later ∧
      exchange = { library := made.library, request := frame.request, reply := exchange.reply
                   resumed := later.note
                     (.answered frame.operation frame.request exchange.reply) } ∧
      moment = Moment.proceed frame.operation outset.pending (frame.next exchange.reply)
        exchange.resumed := by
  generalize whole : exchanges ++ [exchange] = all at dialogue
  cases dialogue with
  | start admissible permitted => exact absurd whole (List.concat_ne_nil _ _)
  | @resume earlier made later frame reply before asked meanwhile answers permitted =>
    obtain ⟨rfl, last⟩ := List.append_inj' whole rfl
    cases last
    exact ⟨made, later, frame, before, asked, meanwhile, rfl, rfl⟩

theorem Dialogue.opening {moment : Moment}
    (dialogue : Dialogue rules operation outset [] moment) :
    moment = outset.start operation := by
  generalize none : ([] : List Exchange) = all at dialogue
  cases dialogue with
  | start => rfl
  | resume => exact absurd none.symm (List.concat_ne_nil _ _)

/-- The exchanges determine the moment. -/
theorem Dialogue.unique {moment other : Moment}
    (first : Dialogue rules operation outset exchanges moment)
    (second : Dialogue rules operation outset exchanges other) : moment = other := by
  induction first generalizing other with
  | start => exact second.opening.symm
  | resume reply _ asked _ _ _ ih =>
    obtain ⟨made, _, frame, before, otherAsked, _, _, otherEq⟩ := second.resumed
    rw [← ih before, asked] at otherAsked
    cases otherAsked
    exact otherEq.symm

/-- However clients reply, an operation that has come to `routine` is over after
finitely many exchanges. -/
private theorem Dialogue.halts {routine : Routine Result} {world : World}
    (dialogue : Dialogue rules operation outset exchanges
      (Moment.proceed operation outset.pending routine world)) (answers : Nat → Exchange) :
    ∃ count, ∀ moment,
      ¬Dialogue rules operation outset (exchanges ++ (List.range count).map answers) moment := by
  induction routine generalizing exchanges world answers with
  | done outcome =>
    refine ⟨1, fun moment further => ?_⟩
    obtain ⟨made, _, frame, before, asked, _⟩ := Dialogue.resumed further
    rw [before.unique dialogue] at asked
    exact absurd asked.symm (List.cons_ne_self frame outset.pending)
  | read next ih => exact ih world.library dialogue answers
  | write library next ih =>
    exact @ih exchanges { world with library := library } dialogue answers
  | mark milestone next ih =>
    exact @ih exchanges (world.note (.reached milestone)) dialogue answers
  | call request next ih =>
    by_cases more : ∃ moment, Dialogue rules operation outset (exchanges ++ [answers 0]) moment
    · obtain ⟨moment, further⟩ := more
      obtain ⟨made, _, frame, before, asked, _, _, momentEq⟩ := further.resumed
      rw [before.unique dialogue] at asked
      cases asked
      rw [momentEq] at further
      obtain ⟨count, exhausted⟩ := ih (answers 0).reply further fun index => answers (index + 1)
      refine ⟨count + 1, ?_⟩
      intro moment longer
      apply exhausted moment
      rw [List.range_succ_eq_map, List.map_cons, List.map_map, ← List.singleton_append,
        ← List.append_assoc] at longer
      exact longer
    · exact ⟨1, fun moment further => more ⟨moment, further⟩⟩

/-- No dialogue goes on for ever. -/
theorem Dialogue.finite (rules : Rules) (operation : Operation) (outset : Moment)
    (answers : Nat → Exchange) :
    ∃ count, ∀ moment,
      ¬Dialogue rules operation outset ((List.range count).map answers) moment := by
  by_cases begins : ∃ moment, Dialogue rules operation outset [] moment
  · obtain ⟨moment, dialogue⟩ := begins
    rw [dialogue.opening] at dialogue
    exact Dialogue.halts dialogue answers
  · exact ⟨0, fun moment dialogue => begins ⟨moment, dialogue⟩⟩

/-- A dialogue in a run goes as the routine of its operation conducts it. -/
theorem Dialogue.standing {moment : Moment} (reachable : Reachable rules outset)
    (conducts : Conducts during operation.routine [] (outset.note (.started operation)) post)
    (dialogue : Dialogue rules operation outset exchanges moment) :
    Standing during post operation outset.pending exchanges moment := by
  induction dialogue with
  | start admissible permitted => exact conducts.standing operation outset.pending
  | @resume exchanges made later frame reply before asked meanwhile answers permitted ih =>
    have changed := meanwhile.rewritten (before.reachable reachable)
    cases ih with
    | ended meets => exact absurd asked.symm (List.cons_ne_self frame outset.pending)
    | waiting asks onward =>
      cases asked
      exact (onward reply (later.note (.answered operation _ reply)) changed).standing _ _

/-- Where a dialogue stands whose exchanges were all usual. -/
theorem Dialogue.stands {usual : Exchange → Prop} {moment : Moment}
    (reachable : Reachable rules outset)
    (conducts : ConductsWhile usual during operation.routine []
      (outset.note (.started operation)) post)
    (dialogue : Dialogue rules operation outset exchanges moment)
    (all : ∀ exchange ∈ exchanges, usual exchange) :
    (∃ now request next, during exchanges now request ∧
      moment =
        { now.note (.called operation request) with
          pending :=
            { operation := operation, request := request, next := next } :: outset.pending }) ∨
    ∃ now outcome, post outcome exchanges now ∧
      moment = { now.note (.finished operation outcome) with pending := outset.pending } := by
  cases dialogue.standing reachable conducts with
  | waiting asks onward => exact Or.inl ⟨_, _, _, asks all, rfl⟩
  | ended meets => exact Or.inr ⟨_, _, meets all, rfl⟩

end ReaderTrace
