import ReaderTrace.Proofs.Accessor
import ReaderTrace.Proofs.Forwarding
import ReaderTrace.Proofs.Scope

/-!
The question whether an object file has symbols.

Symbols that were not read yet count as present if the reader can read them when they
are needed. Whether they were read is noted by the load of a symbol file, right after
its read step; so it depends on how far the load has come which of its questions a
reader is asked.
-/

namespace ReaderTrace

open Routine

/-! ### One inquiry -/

/-- Whether the quick functions answer the question for lazy reading. -/
def Library.answersLazyReading (library : Library) (functions : QuickId) : Bool :=
  ((library.quickFunctions[functions.index]?).map QuickFunctions.answersLazyReading).getD false

section Inquiry

variable (file : ObjectFileId) (begun : Library)

/-- The next call to the quick functions after the exchanges. The question for lazy
reading comes first, but only while the symbols were not read, and only for a reader
that answers it. -/
inductive Inquires : List Exchange → Call → Prop
  | lazily {functions : QuickId} (quick : begun.quickOf? file = some functions)
      (unread : begun.partialSymbolsRead file = false)
      (answers : begun.answersLazyReading functions = true) :
      Inquires [] (.quick functions .canLazilyReadSymbols [])
  | directly {functions : QuickId} (quick : begun.quickOf? file = some functions)
      (settled : begun.partialSymbolsRead file = true ∨
        begun.answersLazyReading functions = false) :
      Inquires [] (.quick functions .hasSymbols [.objectFile file])
  | declined {functions : QuickId} {exchange : Exchange} {answer : Value}
      (lazily : Inquires [] exchange.request)
      (asked : exchange.request = .quick functions .canLazilyReadSymbols [])
      (returned : exchange.reply = .returned answer) (no : answer.isAffirmative = false) :
      Inquires [exchange] (.quick functions .hasSymbols [.objectFile file])

/-- What the quick functions have come to. -/
inductive Finds : List Exchange → Except Raised Value → Prop
  | nobody (quick : begun.quickOf? file = none) : Finds [] (.ok (.boolean false))
  | readable {functions : QuickId} {exchange : Exchange} {answer : Value}
      (lazily : Inquires file begun [] exchange.request)
      (asked : exchange.request = .quick functions .canLazilyReadSymbols [])
      (returned : exchange.reply = .returned answer) (yes : answer.isAffirmative = true) :
      Finds [exchange] (.ok (.boolean true))
  | thrown {functions : QuickId} {exchange : Exchange} {value : Value}
      (lazily : Inquires file begun [] exchange.request)
      (asked : exchange.request = .quick functions .canLazilyReadSymbols [])
      (reply : exchange.reply = .thrown value) :
      Finds [exchange] (.error (.thrown value))
  | told {functions : QuickId} {earlier : List Exchange} {last : Exchange}
      (inquires : Inquires file begun earlier last.request)
      (asked : last.request = .quick functions .hasSymbols [.objectFile file]) :
      Finds (earlier ++ [last]) last.reply.outcome

variable {file begun} {now : World}

/-- What is asked of the quick functions, and in which library. -/
def Inquiring (file : ObjectFileId) (begun : Library) (exchanges : List Exchange) (now : World)
    (request : Call) : Prop :=
  Inquires file begun exchanges request ∧ Unaltered begun exchanges now.library

theorem conducts_inquired {exchanges : List Exchange} {request : Call}
    (inquires : Inquires file begun exchanges request)
    (unaltered : Unaltered begun exchanges now.library) :
    Conducts (Inquiring file begun) (ask request) exchanges now fun outcome after later =>
      ∃ exchange : Exchange, after = exchanges ++ [exchange] ∧ exchange.request = request ∧
        outcome = exchange.reply.outcome ∧ Unaltered begun after later.library := by
  have asks : Inquiring file begun exchanges now request := ⟨inquires, unaltered⟩
  apply (conducts_asked asks).mono
  rintro outcome _ _ ⟨exchange, rfl, asked, answered, rfl⟩
  exact ⟨exchange, rfl, congrArg Asked.request asked, answered,
    unaltered.concat (congrArg Asked.library asked)⟩

theorem conducts_asksSymbols {functions : QuickId} {exchanges : List Exchange}
    (inquires : Inquires file begun exchanges (.quick functions .hasSymbols [.objectFile file]))
    (unaltered : Unaltered begun exchanges now.library) :
    Conducts (Inquiring file begun) (Quick.ask functions .hasSymbols file []) exchanges now
      fun outcome after later =>
        Finds file begun after outcome ∧ Unaltered begun after later.library := by
  apply (conducts_inquired inquires unaltered).mono
  rintro outcome _ _ ⟨exchange, rfl, asked, rfl, unalteredAfter⟩
  exact ⟨.told (asked ▸ inquires) asked, unalteredAfter⟩

/-- A reader is asked for lazy reading, and then for symbols if it says no. -/
theorem conducts_asksLazily {functions : QuickId}
    (inquires : Inquires file begun [] (.quick functions .canLazilyReadSymbols []))
    (same : now.library = begun) :
    Conducts (Inquiring file begun)
      (ask (.quick functions .canLazilyReadSymbols []) >>= fun answer =>
        if answer.isAffirmative then pure (.boolean true)
        else Quick.ask functions .hasSymbols file []) [] now
      fun outcome exchanges later =>
        Finds file begun exchanges outcome ∧ Unaltered begun exchanges later.library := by
  apply (conducts_inquired inquires same).bind
  · rintro answer _ _ ⟨exchange, rfl, asked, answered, unaltered⟩
    have returned : exchange.reply = .returned answer := by
      cases reply : exchange.reply <;> rw [reply] at answered <;> cases answered
      rfl
    cases affirmative : answer.isAffirmative with
    | true => exact ⟨.readable (asked ▸ inquires) asked returned affirmative, unaltered⟩
    | false =>
      have declined : Inquires file begun [exchange] (.quick functions .hasSymbols _) :=
        .declined (asked ▸ inquires) asked returned affirmative
      exact conducts_asksSymbols declined unaltered
  · rintro error _ _ ⟨exchange, rfl, asked, answered, unaltered⟩
    have thrown : ∃ value, exchange.reply = .thrown value ∧ error = .thrown value := by
      cases reply : exchange.reply <;> rw [reply] at answered <;> cases answered
      exact ⟨_, rfl, rfl⟩
    obtain ⟨value, reply, rfl⟩ := thrown
    exact ⟨.thrown (asked ▸ inquires) asked reply, unaltered⟩

theorem conducts_haveSymbols (same : now.library = begun) :
    Conducts (Inquiring file begun) (Quick.haveSymbols (begun.quickOf? file) file) [] now
      fun outcome exchanges later =>
        Finds file begun exchanges outcome ∧ Unaltered begun exchanges later.library := by
  cases quick : begun.quickOf? file with
  | none => exact ⟨.nobody quick, same⟩
  | some functions =>
    subst same
    change Conducts _ ((if !now.library.partialSymbolsRead file &&
      now.library.answersLazyReading functions then _ else _) >>= _) [] now _
    by_cases lazily : now.library.partialSymbolsRead file = false ∧
        now.library.answersLazyReading functions = true
    · have first : Inquires file now.library [] (.quick functions .canLazilyReadSymbols []) :=
        .lazily quick lazily.1 lazily.2
      rw [if_pos (by rw [lazily.1, lazily.2]; rfl)]
      rw [LawfulMonad.bind_assoc]
      simp only [LawfulMonad.pure_bind]
      exact conducts_asksLazily first rfl
    · have settled : now.library.partialSymbolsRead file = true ∨
          now.library.answersLazyReading functions = false := by
        cases read : now.library.partialSymbolsRead file with
        | true => exact Or.inl rfl
        | false => exact Or.inr (eq_false_of_ne_true fun able => lazily ⟨read, able⟩)
      rw [if_neg]
      · exact conducts_asksSymbols (.directly quick settled) rfl
      · rcases settled with read | unable
        · simp [read]
        · simp [unable]

/-- The answer is written to the stream. The quick functions have left `library`, in
which the answer is rendered. -/
structure Recording (file : ObjectFileId) (begun library : Library) (stream : Stream)
    (exchanges : List Exchange) (answer : Value) (asked : Asked) : Prop where
  finds : Finds file begun exchanges (.ok answer)
  unaltered : Unaltered begun exchanges library
  rendered : asked.library =
    { library with addresses := (Record.render answer library.addresses).2 }
  write : asked.request = .write stream
    ("qf->hasSymbols (" ++ begun.debugName file ++ ") = " ++
      (Record.render answer library.addresses).1)

/-- The call after the exchanges: to the quick functions, or of the record. -/
inductive Proceeds (file : ObjectFileId) (begun : Library) (exchanges : List Exchange)
    (now : World) (request : Call) : Prop
  | inquires (inquiring : Inquiring file begun exchanges now request)
  | records {library : Library} {answer : Value} (on : library.debug = true)
      (recording : Recording file begun library library.stream exchanges answer
        { library := now.library, request := request })

/-- What the question has come to with the exchanges, and what it leaves. -/
inductive Resolves (file : ObjectFileId) (begun : Library) :
    List Exchange → Except Raised Value → Library → Prop
  | raised {exchanges : List Exchange} {error : Raised} {later : Library}
      (finds : Finds file begun exchanges (.error error))
      (unaltered : Unaltered begun exchanges later) :
      Resolves file begun exchanges (.error error) later
  | unrecorded {exchanges : List Exchange} {answer : Value} {later : Library}
      (finds : Finds file begun exchanges (.ok answer))
      (unaltered : Unaltered begun exchanges later) (off : later.debug = false) :
      Resolves file begun exchanges (.ok answer) later
  | recorded {exchanges : List Exchange} {last : Exchange} {answer : Value} {library : Library}
      (on : library.debug = true)
      (recording : Recording file begun library library.stream exchanges answer last.toAsked) :
      Resolves file begun (exchanges ++ [last]) (last.reply.outcome.map fun _ => answer)
        last.resumed.library

theorem conducts_recordAnswer {exchanges : List Exchange} {answer : Value}
    (finds : Finds file begun exchanges (.ok answer))
    (unaltered : Unaltered begun exchanges now.library) :
    Conducts (Proceeds file begun)
      (Quick.recordAnswer now.library.debug (begun.debugName file) answer >>= fun _ => pure answer)
      exchanges now fun outcome after later => Resolves file begun after outcome later.library := by
  unfold Quick.recordAnswer
  cases on : now.library.debug with
  | false => exact .unrecorded finds unaltered on
  | true =>
    have write : Call.write now.library.stream
          (Record.call "qf" "hasSymbols" (begun.debugName file) [] ++ " = " ++
            (Record.render answer now.library.addresses).1) =
        .write now.library.stream ("qf->hasSymbols (" ++ begun.debugName file ++ ") = " ++
          (Record.render answer now.library.addresses).1) := by
      simp [Record.call, String.append_assoc]
    have recording : Recording file begun now.library now.library.stream exchanges answer
        { library := (now.after (Edit.render answer)).library
          request := .write now.library.stream
            (Record.call "qf" "hasSymbols" (begun.debugName file) [] ++ " = " ++
              (Record.render answer now.library.addresses).1) } :=
      ⟨finds, unaltered, rfl, write⟩
    refine ⟨.records on recording, fun reply later _ => ?_⟩
    cases reply with
    | returned value => exact .recorded on recording
    | thrown value => exact .recorded on recording

theorem conducts_hasPartialSymbols (file : ObjectFileId) (world : World) :
    Conducts (Proceeds file world.library) (Quick.hasPartialSymbols file) [] world
      fun outcome exchanges later => Resolves file world.library exchanges outcome later.library := by
  have inquires : Conducts (Proceeds file world.library)
      (Quick.haveSymbols (world.library.quickOf? file) file) [] world
      fun outcome exchanges later =>
        Finds file world.library exchanges outcome ∧
          Unaltered world.library exchanges later.library :=
    (conducts_haveSymbols rfl).allow fun _ _ _ inquiring => .inquires inquiring
  apply conducts_library
  apply inquires.bind
  · rintro answer exchanges later ⟨finds, unaltered⟩
    apply conducts_library
    exact conducts_recordAnswer finds unaltered
  · rintro error exchanges later ⟨finds, unaltered⟩
    exact .raised finds unaltered

end Inquiry

/-! ### While the debug setting and the stream stay -/

/-- Whoever was called has left the debug setting and the stream as they were. -/
structure Exchange.Discreet (exchange : Exchange) : Prop where
  debug : exchange.resumed.library.debug = exchange.library.debug
  stream : exchange.resumed.library.stream = exchange.library.stream

theorem Unaltered.discreet {first now : Library} {exchanges : List Exchange}
    (unaltered : Unaltered first exchanges now)
    (discreet : ∀ exchange ∈ exchanges, exchange.Discreet) :
    now.debug = first.debug ∧ now.stream = first.stream := by
  induction exchanges generalizing first with
  | nil =>
    rw [unaltered]
    exact ⟨rfl, rfl⟩
  | cons exchange rest ih =>
    obtain ⟨asked, onward⟩ := unaltered
    have ⟨debug, stream⟩ := discreet exchange (List.mem_cons_self ..)
    have further := ih onward fun other member => discreet other (List.mem_cons_of_mem _ member)
    rw [← asked, ← debug, ← stream]
    exact further

/-- No record is written before the quick functions have been asked. -/
theorem Finds.not_isRecord {file : ObjectFileId} {begun : Library} {exchanges : List Exchange}
    {outcome : Except Raised Value} (finds : Finds file begun exchanges outcome) :
    ∀ exchange ∈ exchanges, ¬exchange.request.IsRecord := by
  have quick : ∀ {request : Call} {functions : QuickId} {function : QuickFunction}
      {arguments : List Value}, request = .quick functions function arguments →
      ¬request.IsRecord := by
    rintro _ _ _ _ rfl
    exact not_false
  intro exchange member
  cases finds with
  | nobody => cases member
  | readable _ asked | thrown _ asked =>
    rw [List.mem_singleton.mp member]
    exact quick asked
  | @told _ earlier last inquires asked =>
    rcases List.mem_append.mp member with before | last
    · generalize last.request = request at inquires
      cases inquires with
      | lazily | directly => cases before
      | declined _ askedBefore =>
        rw [List.mem_singleton.mp before]
        exact quick askedBefore
    · rw [List.mem_singleton.mp last]
      exact quick asked

/-- Where the question for symbols stands after the exchanges, while the debug setting
and the stream are what they were at the outset. -/
inductive Answering (file : ObjectFileId) (outset : Moment) (exchanges : List Exchange) :
    Moment → Prop
  | inquiring {now : World} {request : Call} {next : Reply → Routine Result}
      (inquires : Inquires file outset.library exchanges request)
      (unaltered : Unaltered outset.library exchanges now.library) :
      Answering file outset exchanges
        { now.note (.called (.hasPartialSymbols file) request) with
          pending := { operation := .hasPartialSymbols file, request := request, next := next } ::
            outset.pending }
  | recording {now : World} {request : Call} {next : Reply → Routine Result} {library : Library}
      {answer : Value} (on : outset.library.debug = true)
      (recording : Recording file outset.library library outset.library.stream exchanges answer
        { library := now.library, request := request }) :
      Answering file outset exchanges
        { now.note (.called (.hasPartialSymbols file) request) with
          pending := { operation := .hasPartialSymbols file, request := request, next := next } ::
            outset.pending }
  | raised {now : World} {error : Raised}
      (finds : Finds file outset.library exchanges (.error error))
      (unaltered : Unaltered outset.library exchanges now.library) :
      Answering file outset exchanges
        { now.note (.finished (.hasPartialSymbols file) (.error error)) with
          pending := outset.pending }
  | unrecorded {now : World} {answer : Value} (off : outset.library.debug = false)
      (finds : Finds file outset.library exchanges (.ok answer))
      (unaltered : Unaltered outset.library exchanges now.library) :
      Answering file outset exchanges
        { now.note (.finished (.hasPartialSymbols file) (.ok (.value answer))) with
          pending := outset.pending }
  | recorded {now : World} {inquiry : List Exchange} {last : Exchange} {library : Library}
      {answer : Value} (on : outset.library.debug = true) (whole : exchanges = inquiry ++ [last])
      (recording : Recording file outset.library library outset.library.stream inquiry answer
        last.toAsked)
      (since : now.library = last.resumed.library) :
      Answering file outset exchanges
        { now.note (.finished (.hasPartialSymbols file)
            (last.reply.outcome.map fun _ => .value answer)) with
          pending := outset.pending }

section Runs

variable {file : ObjectFileId} {outset later : Moment} {exchanges : List Exchange}

theorem Dialogue.resolves (reachable : Reachable .free outset)
    (dialogue : Dialogue .free (.hasPartialSymbols file) outset exchanges later) :
    Standing (Proceeds file outset.library)
      (fun outcome exchanges later => ∃ returned, outcome = returned.map Result.value ∧
        Resolves file outset.library exchanges returned later.library)
      (.hasPartialSymbols file) outset.pending exchanges later := by
  apply dialogue.standing reachable
  apply (conducts_hasPartialSymbols file (outset.note (.started (.hasPartialSymbols file)))).bind
  · exact fun answer after now resolves => ⟨.ok answer, rfl, resolves⟩
  · exact fun error after now resolves => ⟨.error error, rfl, resolves⟩

theorem Dialogue.answering (reachable : Reachable .free outset)
    (dialogue : Dialogue .free (.hasPartialSymbols file) outset exchanges later)
    (discreet : ∀ exchange ∈ exchanges, ¬exchange.request.IsRecord → exchange.Discreet) :
    Answering file outset exchanges later := by
  have settled : ∀ {inquiry : List Exchange} {outcome : Except Raised Value} {library : Library},
      Finds file outset.library inquiry outcome → inquiry ⊆ exchanges →
      Unaltered outset.library inquiry library →
        library.debug = outset.library.debug ∧ library.stream = outset.library.stream := by
    intro inquiry outcome library finds subset unaltered
    exact unaltered.discreet fun exchange member =>
      discreet exchange (subset member) (finds.not_isRecord exchange member)
  cases dialogue.resolves reachable with
  | waiting asks _ =>
    cases asks with
    | inquires inquiring => exact .inquiring inquiring.1 inquiring.2
    | records on recording =>
      obtain ⟨debug, stream⟩ :=
        settled recording.finds (List.Subset.refl _) recording.unaltered
      rw [stream] at recording
      exact .recording (debug ▸ on) recording
  | @ended now _ meets =>
    obtain ⟨returned, rfl, resolves⟩ := meets
    generalize since : now.library = left at resolves
    cases resolves with
    | raised finds unaltered =>
      subst since
      exact .raised finds unaltered
    | unrecorded finds unaltered off =>
      subst since
      have debug := (settled finds (List.Subset.refl _) unaltered).1
      exact .unrecorded (debug ▸ off) finds unaltered
    | @recorded _ last answer _ on recording =>
      obtain ⟨debug, stream⟩ :=
        settled recording.finds (List.subset_append_left _ _) recording.unaltered
      have outcomeEq : (last.reply.outcome.map fun _ => answer).map Result.value =
          last.reply.outcome.map fun _ => .value answer := by cases last.reply <;> rfl
      rw [stream] at recording
      rw [outcomeEq]
      exact .recorded (debug ▸ on) rfl recording since

end Runs

/-! ### Who is asked for lazy reading -/

section Lazily

variable {file : ObjectFileId} {begun : Library} {exchanges : List Exchange} {request : Call}
  {functions : QuickId}

theorem Inquires.unread_of_lazily {arguments : List Value}
    (inquires : Inquires file begun exchanges request)
    (lazily : request = .quick functions .canLazilyReadSymbols arguments) :
    begun.partialSymbolsRead file = false := by
  cases inquires with
  | lazily _ unread _ => exact unread
  | directly => cases lazily
  | declined => cases lazily

/-- A reader whose symbols were read is asked whether it has any, and nothing else. -/
theorem Inquires.of_read (inquires : Inquires file begun exchanges request)
    (read : begun.partialSymbolsRead file = true) :
    exchanges = [] ∧ ∃ functions, request = .quick functions .hasSymbols [.objectFile file] := by
  cases inquires with
  | lazily _ unread _ =>
    rw [read] at unread
    cases unread
  | directly => exact ⟨rfl, _, rfl⟩
  | declined lazily asked =>
    have unread := lazily.unread_of_lazily asked
    rw [read] at unread
    cases unread

theorem Finds.of_read {outcome : Except Raised Value}
    (finds : Finds file begun exchanges outcome) (read : begun.partialSymbolsRead file = true) :
    ∀ exchange ∈ exchanges,
      ∃ functions, exchange.request = .quick functions .hasSymbols [.objectFile file] := by
  intro exchange member
  cases finds with
  | nobody => cases member
  | readable lazily asked | thrown lazily asked =>
    have unread := lazily.unread_of_lazily asked
    rw [read] at unread
    cases unread
  | told inquires asked =>
    obtain ⟨rfl, _⟩ := inquires.of_read read
    rw [List.mem_singleton.mp member]
    exact ⟨_, asked⟩

/-- A reader that can tell is asked for lazy reading first, as long as the symbols were
not read. -/
theorem Inquires.first (inquires : Inquires file begun exchanges request)
    (quick : begun.quickOf? file = some functions)
    (unread : begun.partialSymbolsRead file = false)
    (answers : begun.answersLazyReading functions = true) :
    (exchanges.map (fun exchange => exchange.request) ++ [request]).head? =
      some (.quick functions .canLazilyReadSymbols []) := by
  cases inquires with
  | lazily quick' =>
    rw [quick] at quick'
    cases quick'
    rfl
  | directly quick' settled =>
    rw [quick] at quick'
    cases quick'
    rcases settled with read | unable
    · rw [unread] at read
      cases read
    · rw [answers] at unable
      cases unable
  | @declined other exchange answer lazily asked =>
    rw [asked] at lazily
    cases lazily with
    | lazily quick' =>
      rw [quick] at quick'
      cases quick'
      exact congrArg some asked

theorem Finds.first {outcome : Except Raised Value}
    (finds : Finds file begun exchanges outcome) (quick : begun.quickOf? file = some functions)
    (unread : begun.partialSymbolsRead file = false)
    (answers : begun.answersLazyReading functions = true) :
    (exchanges.map fun exchange => exchange.request).head? =
      some (.quick functions .canLazilyReadSymbols []) := by
  cases finds with
  | nobody nobody =>
    rw [quick] at nobody
    cases nobody
  | readable lazily _ | thrown lazily _ => exact lazily.first quick unread answers
  | told inquires _ =>
    rw [List.map_append]
    exact inquires.first quick unread answers

end Lazily

/-- The calls that an operation has made since the outset: those that were answered,
and the one that waits. -/
def Moment.requests (outset : Moment) (exchanges : List Exchange) (later : Moment) : List Call :=
  exchanges.map (fun exchange => exchange.request) ++
    (later.pending.take (later.pending.length - outset.pending.length)).map Frame.request

section Requests

variable {file : ObjectFileId} {outset later : Moment} {exchanges : List Exchange}

theorem Standing.requests {during : List Exchange → World → Call → Prop}
    {post : Except Raised Result → List Exchange → World → Prop} {operation : Operation}
    (standing : Standing during post operation outset.pending exchanges later) :
    (∃ now request, during exchanges now request ∧ outset.requests exchanges later =
      exchanges.map (fun exchange => exchange.request) ++ [request]) ∨
    ∃ outcome now, post outcome exchanges now ∧ outset.requests exchanges later =
      exchanges.map fun exchange => exchange.request := by
  unfold Moment.requests
  cases standing with
  | @waiting now request next asks =>
    refine Or.inl ⟨now, request, asks, ?_⟩
    simp
  | @ended now outcome meets =>
    refine Or.inr ⟨outcome, now, meets, ?_⟩
    simp

/-- What is asked of a reader whose symbols were read, besides the record. -/
theorem Dialogue.requests_of_read (reachable : Reachable .free outset)
    (dialogue : Dialogue .free (.hasPartialSymbols file) outset exchanges later)
    (read : outset.library.partialSymbolsRead file = true) :
    ∀ request ∈ outset.requests exchanges later,
      (∃ functions, request = .quick functions .hasSymbols [.objectFile file]) ∨
        request.IsRecord := by
  have found : ∀ {inquiry : List Exchange} {outcome : Except Raised Value},
      Finds file outset.library inquiry outcome →
      ∀ request ∈ inquiry.map (fun exchange => exchange.request),
        ∃ functions, request = .quick functions .hasSymbols [.objectFile file] := by
    intro inquiry outcome finds request member
    obtain ⟨exchange, among, rfl⟩ := List.mem_map.mp member
    exact finds.of_read read exchange among
  have recorded : ∀ {inquiry : List Exchange} {library : Library} {stream : Stream}
      {answer : Value} {asked : Asked},
      Recording file outset.library library stream inquiry answer asked →
      ∀ request ∈ inquiry.map (fun exchange => exchange.request) ++ [asked.request],
        (∃ functions, request = .quick functions .hasSymbols [.objectFile file]) ∨
          request.IsRecord := by
    intro inquiry library stream answer asked recording request member
    rcases List.mem_append.mp member with before | last
    · exact Or.inl (found recording.finds request before)
    · rw [List.mem_singleton.mp last, recording.write]
      exact Or.inr trivial
  rcases (dialogue.resolves reachable).requests with
    ⟨now, request, asks, requestsEq⟩ | ⟨_, now, ⟨returned, rfl, resolves⟩, requestsEq⟩
  · rw [requestsEq]
    cases asks with
    | inquires inquiring =>
      obtain ⟨rfl, functions, rfl⟩ := inquiring.1.of_read read
      exact fun other member => Or.inl ⟨functions, List.mem_singleton.mp member⟩
    | records on recording => exact recorded recording
  · rw [requestsEq]
    generalize now.library = left at resolves
    cases resolves with
    | raised finds | unrecorded finds =>
      exact fun request member => Or.inl (found finds request member)
    | recorded on recording =>
      rw [List.map_append]
      exact recorded recording

/-- A reader that can tell is asked for lazy reading first, while its symbols were not
read. -/
theorem Dialogue.requests_of_unread (reachable : Reachable .free outset)
    (dialogue : Dialogue .free (.hasPartialSymbols file) outset exchanges later)
    {functions : QuickId} (quick : outset.library.quickOf? file = some functions)
    (unread : outset.library.partialSymbolsRead file = false)
    (answers : outset.library.answersLazyReading functions = true) :
    (outset.requests exchanges later).head? =
      some (.quick functions .canLazilyReadSymbols []) := by
  rcases (dialogue.resolves reachable).requests with
    ⟨now, request, asks, requestsEq⟩ | ⟨_, now, ⟨returned, rfl, resolves⟩, requestsEq⟩
  · rw [requestsEq]
    cases asks with
    | inquires inquiring => exact inquiring.1.first quick unread answers
    | records on recording =>
      rw [List.head?_append, recording.finds.first quick unread answers]
      rfl
  · rw [requestsEq]
    generalize now.library = left at resolves
    cases resolves with
    | raised finds | unrecorded finds => exact finds.first quick unread answers
    | recorded on recording =>
      rw [List.map_append, List.head?_append, recording.finds.first quick unread answers]
      rfl

end Requests

end ReaderTrace
