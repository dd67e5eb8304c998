import ReaderTrace.Proofs.Dialogue

/-!
What the invocation of a table's function asks for, reply by reply.

A client's function is called, and that is all. A forwarding function asks for its
call record, then for what the function around which it was built asks for, and where
that has come to a result, for its result record. What a stream or a client throws ends
it there. Between these calls the library only gives out address tokens.
-/

namespace ReaderTrace

open Routine

/-! ### Giving out tokens -/

/-- Given control at `control`, the library has done no more than to render some
values. -/
def World.Idle (control now : World) : Prop :=
  ∃ values, now = control.after (Edit.renderAll values)

namespace World

variable {control begun middle now : World}

theorem Idle.refl (control : World) : control.Idle control :=
  ⟨[], rfl⟩

theorem Idle.trans (first : control.Idle middle) (second : middle.Idle now) :
    control.Idle now := by
  obtain ⟨values, rfl⟩ := first
  obtain ⟨more, rfl⟩ := second
  refine ⟨values ++ more, ?_⟩
  change { control with
    library := { control.library with
      addresses :=
        (Record.renderAll more (Record.renderAll values control.library.addresses).2).2 } } =
    { control with
      library := { control.library with
        addresses := (Record.renderAll (values ++ more) control.library.addresses).2 } }
  rw [Record.renderAll_append]

theorem Idle.renderAll (values : List Value) :
    control.Idle (control.after (Edit.renderAll values)) :=
  ⟨values, rfl⟩

@[simp] theorem latest_nil (begun : World) : begun.latest [] = begun :=
  rfl

theorem latest_cons (begun : World) (exchange : Exchange) (exchanges : List Exchange) :
    begun.latest (exchange :: exchanges) = exchange.resumed.latest exchanges := by
  unfold latest
  rw [List.getLast?_cons]
  cases exchanges.getLast? <;> rfl

theorem latest_append_list (begun : World) (first second : List Exchange) :
    begun.latest (first ++ second) = (begun.latest first).latest second := by
  induction first generalizing begun with
  | nil => rfl
  | cons exchange rest ih => rw [List.cons_append, latest_cons, latest_cons, ih]

end World

/-! ### The records of a forwarding function -/

namespace Forwarding

/-- The call record is asked for: it shows every argument but the host, in the texts
that the address book gives them from left to right. -/
structure Announces (how : Forwarding) (arguments : List Value) (begun : Library)
    (asked : Asked) : Prop where
  request : asked.request = .write begun.stream
    (how.callRecord (Record.renderAll (how.shownArguments arguments) begun.addresses).1)
  library : asked.library = { begun with
    addresses := (Record.renderAll (how.shownArguments arguments) begun.addresses).2 }

/-- The result record is asked for. -/
structure Reports (how : Forwarding) (result : Value) (begun : Library) (asked : Asked) :
    Prop where
  request : asked.request = .write begun.stream
    (how.resultRecord (Record.render result begun.addresses).1)
  library : asked.library = { begun with addresses := (Record.render result begun.addresses).2 }

/-- What is left to do when the inner call has come to `inner`: one result record, if
there is a result, whose writing may fail. -/
inductive Closes (how : Forwarding) (begun : Library) :
    Except Raised Value → List Exchange → Except Raised Value → Library → Prop
  | reported {result : Value} {report : Exchange} (present : result ≠ .absent)
      (reports : how.Reports result begun report.toAsked) :
      Closes how begun (.ok result) [report] (report.reply.outcome.map fun _ => result)
        report.resumed.library
  | absent : Closes how begun (.ok .absent) [] (.ok .absent) begun
  | raised (error : Raised) : Closes how begun (.error error) [] (.error error) begun

end Forwarding

/-! ### The calls of an invocation -/

namespace TableFunction

/-- From the library `begun` on, an invocation has had the exchanges and has come to
its outcome. -/
def Completes : TableFunction → Option Receiver → List Value → Library → List Exchange →
    Except Raised Value → Library → Prop
  | .client id, receiver, arguments, begun, exchanges, outcome, finish =>
      ∃ exchange : Exchange, exchanges = [exchange] ∧
        exchange.toAsked = { library := begun, request := .function id receiver arguments } ∧
        outcome = exchange.reply.outcome ∧ finish = exchange.resumed.library
  | .forward how target, _, arguments, begun, exchanges, outcome, finish =>
      ∃ (announcement : Exchange) (own : List Exchange), exchanges = announcement :: own ∧
        how.Announces arguments begun announcement.toAsked ∧
        ((∃ value, announcement.reply = .thrown value ∧ own = [] ∧
            outcome = .error (.thrown value) ∧ finish = announcement.resumed.library) ∨
          ∃ (written : Value) (called reports : List Exchange) (inner : Except Raised Value)
            (middle : Library),
            announcement.reply = .returned written ∧ own = called ++ reports ∧
            target.Completes (some how.receiver) arguments announcement.resumed.library called
              inner middle ∧
            how.Closes middle inner reports outcome finish)

/-- From the library `begun` on, an invocation has had the exchanges and asks for the
next. -/
def Requests : TableFunction → Option Receiver → List Value → Library → List Exchange →
    Asked → Prop
  | .client id, receiver, arguments, begun, exchanges, asked =>
      exchanges = [] ∧ asked = { library := begun, request := .function id receiver arguments }
  | .forward how target, _, arguments, begun, exchanges, asked =>
      (exchanges = [] ∧ how.Announces arguments begun asked) ∨
      ∃ (announcement : Exchange) (written : Value) (called : List Exchange),
        exchanges = announcement :: called ∧
        how.Announces arguments begun announcement.toAsked ∧
        announcement.reply = .returned written ∧
        (target.Requests (some how.receiver) arguments announcement.resumed.library called
            asked ∨
          ∃ result middle, result ≠ .absent ∧
            target.Completes (some how.receiver) arguments announcement.resumed.library called
              (.ok result) middle ∧
            how.Reports result middle asked)

/-- An invocation that began at `begun` asks for the next call, having done nothing but
to give out tokens since it was given control. -/
structure Asking (function : TableFunction) (receiver : Option Receiver) (arguments : List Value)
    (begun : World) (exchanges : List Exchange) (now : World) (request : Call) : Prop where
  requests : function.Requests receiver arguments begun.library exchanges
    { library := now.library, request := request }
  idle : (begun.latest exchanges).Idle now

/-- An invocation that began at `begun` has come to its outcome, having done nothing but
to give out tokens since it was given control. -/
structure Ending (function : TableFunction) (receiver : Option Receiver) (arguments : List Value)
    (begun : World) (outcome : Except Raised Value) (exchanges : List Exchange) (now : World) :
    Prop where
  completes : function.Completes receiver arguments begun.library exchanges outcome now.library
  idle : (begun.latest exchanges).Idle now

end TableFunction

/-! ### An invocation makes these calls -/

section Conducts

variable {during : List Exchange → World → Call → Prop} {exchanges : List Exchange} {now : World}

theorem conducts_asked {request : Call} (asks : during exchanges now request) :
    Conducts during (ask request) exchanges now fun outcome after later =>
      ∃ exchange : Exchange, after = exchanges ++ [exchange] ∧
        exchange.toAsked = { library := now.library, request := request } ∧
        outcome = exchange.reply.outcome ∧ exchange.resumed = later := by
  refine ⟨asks, fun reply later _ => ?_⟩
  cases reply with
  | returned value => exact ⟨_, rfl, rfl, rfl, rfl⟩
  | thrown value => exact ⟨_, rfl, rfl, rfl, rfl⟩

theorem conducts_written {record : String}
    (asks : during exchanges now (.write now.library.stream record)) :
    Conducts during (discard (writeRecord record)) exchanges now fun outcome after later =>
      ∃ exchange : Exchange, after = exchanges ++ [exchange] ∧
        exchange.toAsked =
          { library := now.library, request := .write now.library.stream record } ∧
        outcome = exchange.reply.outcome.map (fun _ => ()) ∧ exchange.resumed = later := by
  refine ⟨asks, fun reply later _ => ?_⟩
  cases reply with
  | returned value => exact ⟨_, rfl, rfl, rfl, rfl⟩
  | thrown value => exact ⟨_, rfl, rfl, rfl, rfl⟩

/-- The end of a forwarding function, once the inner call has returned. -/
theorem conducts_closes (how : Forwarding) (result : Value)
    (allows : ∀ later request, result ≠ .absent → now.Idle later →
      how.Reports result now.library { library := World.library later, request := request } →
      during exchanges later request) :
    Conducts during
      (if result ≠ .absent then do
          let text ← Routine.edit (Edit.render result)
          discard (writeRecord (how.resultRecord text))
          pure result
        else pure result)
      exchanges now fun outcome after finish =>
        ∃ reports, after = exchanges ++ reports ∧
          how.Closes now.library (.ok result) reports outcome finish.library ∧
          (now.latest reports).Idle finish := by
  by_cases present : result ≠ .absent
  · rw [if_pos present]
    apply conducts_edit
    · intro text rendered
      cases rendered
      have asks := allows (now.after (Edit.render result)) (.write now.library.stream
        (how.resultRecord (Record.render result now.library.addresses).1)) present
        (World.Idle.renderAll [result]) ⟨rfl, rfl⟩
      have reported : ∀ {report : Exchange}, report.toAsked =
          { library := (now.after (Edit.render result)).library
            request := .write now.library.stream
              (how.resultRecord (Record.render result now.library.addresses).1) } →
          how.Reports result now.library report.toAsked := by
        intro report asked
        rw [asked]
        exact ⟨rfl, rfl⟩
      apply (conducts_written asks).bind
      · rintro _ _ _ ⟨report, rfl, asked, wrote, rfl⟩
        cases replied : report.reply with
        | returned written =>
          have closes := Forwarding.Closes.reported present (reported asked)
          rw [replied] at closes
          exact ⟨[report], rfl, closes, .refl _⟩
        | thrown value =>
          rw [replied] at wrote
          cases wrote
      · rintro error _ _ ⟨report, rfl, asked, wrote, rfl⟩
        cases replied : report.reply with
        | returned written =>
          rw [replied] at wrote
          cases wrote
        | thrown value =>
          have closes := Forwarding.Closes.reported present (reported asked)
          rw [replied] at wrote closes
          cases wrote
          exact ⟨[report], rfl, closes, .refl _⟩
    · intro error impossible
      cases impossible
  · rw [if_neg present]
    have absent : result = .absent := Classical.not_not.mp present
    subst absent
    exact ⟨[], (List.append_nil _).symm, .absent, .refl now⟩

/-- A forwarding function has had its call record written. The inner call, of which
`inner` says what it comes to, and the result record are left. -/
theorem conducts_relays (how : Forwarding) (target : TableFunction) (receiver : Option Receiver)
    (arguments : List Value) {begun : World} {announcement : Exchange} {written : Value}
    (announces : how.Announces arguments begun.library announcement.toAsked)
    (replied : announcement.reply = .returned written)
    (allows : ∀ own later request,
      (TableFunction.forward how target).Asking receiver arguments begun (announcement :: own) later
        request →
      during (exchanges ++ announcement :: own) later request)
    (inner :
      (∀ own later request,
        target.Asking (some how.receiver) arguments announcement.resumed own later request →
        during (exchanges ++ [announcement] ++ own) later request) →
      Conducts during (target.invoke (some how.receiver) arguments) (exchanges ++ [announcement])
        announcement.resumed fun outcome after finish =>
          ∃ own, after = exchanges ++ [announcement] ++ own ∧
            target.Ending (some how.receiver) arguments announcement.resumed outcome own finish) :
    Conducts during
      ((target.invoke (some how.receiver) arguments).bind fun result =>
        if result ≠ .absent then do
          let text ← Routine.edit (Edit.render result)
          discard (writeRecord (how.resultRecord text))
          pure result
        else pure result)
      (exchanges ++ [announcement]) announcement.resumed fun outcome after finish =>
        ∃ own, after = exchanges ++ announcement :: own ∧
          (TableFunction.forward how target).Ending receiver arguments begun outcome
            (announcement :: own) finish := by
  have innerAllows : ∀ own later request,
      target.Asking (some how.receiver) arguments announcement.resumed own later request →
      during (exchanges ++ [announcement] ++ own) later request := by
    intro own later request ⟨requests, idle⟩
    rw [List.append_assoc]
    apply allows own later request
    refine ⟨Or.inr ⟨announcement, written, own, rfl, announces, replied, Or.inl requests⟩, ?_⟩
    rw [World.latest_cons]
    exact idle
  apply (inner innerAllows).bind
  · rintro result _ returned ⟨called, rfl, completes, idle⟩
    have reportAllows : ∀ later request, result ≠ .absent → returned.Idle later →
        how.Reports result returned.library
          { library := World.library later, request := request } →
        during (exchanges ++ [announcement] ++ called) later request := by
      intro later request present onward reports
      rw [List.append_assoc]
      apply allows called later request
      refine ⟨Or.inr ⟨announcement, written, called, rfl, announces, replied,
        Or.inr ⟨result, returned.library, present, completes, reports⟩⟩, ?_⟩
      rw [World.latest_cons]
      exact idle.trans onward
    apply (conducts_closes how result reportAllows).mono
    rintro outcome _ finish ⟨reports, rfl, closes, onward⟩
    refine ⟨called ++ reports, by simp, ?_, ?_⟩
    · exact ⟨announcement, called ++ reports, rfl, announces,
        Or.inr ⟨written, called, reports, _, _, replied, rfl, completes, closes⟩⟩
    · rw [World.latest_cons, World.latest_append_list]
      cases reports with
      | nil => exact idle.trans onward
      | cons report rest =>
        rw [World.latest_cons] at onward ⊢
        exact onward
  · rintro error _ returned ⟨called, rfl, completes, idle⟩
    refine ⟨called, by simp, ?_, ?_⟩
    · exact ⟨announcement, called, rfl, announces,
        Or.inr ⟨written, called, [], _, _, replied, (List.append_nil _).symm, completes,
          .raised error⟩⟩
    · rw [World.latest_cons]
      exact idle

/-- An invocation asks for what it should, and what it has asked for when it ends is all
of it. -/
theorem conducts_completes (function : TableFunction) (receiver : Option Receiver)
    (arguments : List Value)
    (allows : ∀ own later request,
      function.Asking receiver arguments now own later request →
      during (exchanges ++ own) later request) :
    Conducts during (function.invoke receiver arguments) exchanges now fun outcome after finish =>
      ∃ own, after = exchanges ++ own ∧
        function.Ending receiver arguments now outcome own finish := by
  induction function generalizing receiver exchanges now with
  | client id =>
    have asks : during exchanges now (.function id receiver arguments) := by
      have allowed := allows [] now (.function id receiver arguments) ⟨⟨rfl, rfl⟩, .refl now⟩
      rwa [List.append_nil] at allowed
    apply (conducts_asked asks).mono
    rintro outcome _ _ ⟨exchange, rfl, asked, outcomeEq, rfl⟩
    exact ⟨[exchange], rfl, ⟨exchange, rfl, asked, outcomeEq, rfl⟩, .refl _⟩
  | forward how target ih =>
    apply conducts_edit
    · intro texts rendered
      cases rendered
      have asks : during exchanges (now.after (Edit.renderAll (how.shownArguments arguments)))
          (.write now.library.stream (how.callRecord (Record.renderAll
            (how.shownArguments arguments) now.library.addresses).1)) := by
        have allowed := allows [] (now.after (Edit.renderAll (how.shownArguments arguments)))
          (.write now.library.stream (how.callRecord (Record.renderAll
            (how.shownArguments arguments) now.library.addresses).1))
          ⟨Or.inl ⟨rfl, rfl, rfl⟩, .renderAll _⟩
        rwa [List.append_nil] at allowed
      apply (conducts_written asks).bind
      · rintro _ _ _ ⟨announcement, rfl, asked, wrote, rfl⟩
        have announces : how.Announces arguments now.library announcement.toAsked := by
          rw [asked]
          exact ⟨rfl, rfl⟩
        cases replied : announcement.reply with
        | returned written =>
          apply (conducts_relays how target receiver arguments announces replied
            (fun own => allows (announcement :: own)) (ih (some how.receiver))).mono
          rintro outcome _ finish ⟨own, rfl, ending⟩
          exact ⟨announcement :: own, rfl, ending⟩
        | thrown value =>
          rw [replied] at wrote
          cases wrote
      · rintro error _ _ ⟨announcement, rfl, asked, wrote, rfl⟩
        have announces : how.Announces arguments now.library announcement.toAsked := by
          rw [asked]
          exact ⟨rfl, rfl⟩
        cases replied : announcement.reply with
        | returned written =>
          rw [replied] at wrote
          cases wrote
        | thrown value =>
          rw [replied] at wrote
          cases wrote
          exact ⟨[announcement], rfl,
            ⟨announcement, [], rfl, announces, Or.inl ⟨value, replied, rfl, rfl, rfl⟩⟩, .refl _⟩
    · intro error impossible
      cases impossible

end Conducts

/-! ### The function of a slot -/

namespace SymbolFile

variable {begun : World} {file : ObjectFileId} {slot : Slot} {arguments : List Value}

/-- The active table has a function for the slot, and its invocation asks for the next
call. -/
inductive Calling (begun : World) (file : ObjectFileId) (slot : Slot) (arguments : List Value)
    (exchanges : List Exchange) (now : World) (request : Call) : Prop
  | asking {table : TableRef} {function : TableFunction}
      (active : begun.library.tableOf? file = some table)
      (present : begun.library.function? table slot = some function)
      (asking : function.Asking (some (.table table)) arguments begun exchanges now request) :
      Calling begun file slot arguments exchanges now request

/-- The function of the slot was called, where the active table has one. -/
inductive Called (begun : World) (file : ObjectFileId) (slot : Slot) (arguments : List Value) :
    Except Raised Unit → List Exchange → World → Prop
  | bare (missing : begun.library.tableOf? file = none) :
      Called begun file slot arguments
        (.error (.fault (.assertion (.noTable (begun.library.debugName file))))) [] begun
  | absent {table : TableRef} (active : begun.library.tableOf? file = some table)
      (missing : begun.library.function? table slot = none) :
      Called begun file slot arguments (.ok ()) [] begun
  | ended {table : TableRef} {function : TableFunction} {returned : Except Raised Value}
      {exchanges : List Exchange} {now : World}
      (active : begun.library.tableOf? file = some table)
      (present : begun.library.function? table slot = some function)
      (ending : function.Ending (some (.table table)) arguments begun returned exchanges now) :
      Called begun file slot arguments (returned.map fun _ => ()) exchanges now

theorem conducts_callPresent (begun : World) (file : ObjectFileId) (slot : Slot)
    (arguments : List Value) :
    Conducts (Calling begun file slot arguments) (callPresent file slot arguments) [] begun
      fun outcome exchanges now => Called begun file slot arguments outcome exchanges now := by
  cases active : begun.library.tableOf? file with
  | none =>
    have found : (activeTable file).apply begun.library =
        (.error (.fault (.assertion (.noTable (begun.library.debugName file)))),
          begun.library) := by
      rw [apply_activeTable, active]
    change Conducts _ (Routine.edit (activeTable file) >>= _) _ _ _
    apply conducts_edit
    · intro table impossible
      rw [found] at impossible
      cases impossible
    · intro error raised
      unfold World.after
      rw [found] at raised ⊢
      cases raised
      exact .bare active
  | some table =>
    apply conducts_activeTable active
    apply conducts_library
    cases present : begun.library.function? table slot with
    | none => exact .absent active present
    | some function =>
      apply (conducts_completes function (some (.table table)) arguments
        fun _ _ _ asking => Calling.asking active present asking).bind
      · rintro value _ now ⟨own, rfl, ending⟩
        exact .ended active present ending
      · rintro error _ now ⟨own, rfl, ending⟩
        exact .ended active present ending

end SymbolFile

end ReaderTrace
