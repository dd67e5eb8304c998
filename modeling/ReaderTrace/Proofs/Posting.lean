import ReaderTrace.Proofs.BaseTable
import ReaderTrace.Proofs.Delivery
import ReaderTrace.Proofs.Disposal
import ReaderTrace.Proofs.Finishing

/-!
The postings that operations make.

What a client posts is an operation of its own. The destruction of an object file is
posted by the library: when the file is removed, when its reader has been told to
finish, and for one file after another when their program space is disposed. Each of
these postings has listeners of its own, those that were subscribed when it began. The
library itself is the first to be told of a destruction, and takes the logging off the
file before any client hears of it.
-/

namespace ReaderTrace

open Routine

/-! ### An operation between two calls -/

/-- The client has replied in a world to which a run can lead. -/
structure Exchange.Attended (exchange : Exchange) : Prop where
  begun : Begun (fun _ => True) exchange.resumed
  enrolled : Enrolled exchange.resumed

theorem Dialogue.attended {operation : Operation} {outset later : Moment}
    {exchanges : List Exchange} (reachable : Reachable .free outset)
    (dialogue : Dialogue .free operation outset exchanges later) :
    ∀ exchange ∈ exchanges, exchange.Attended := by
  induction dialogue with
  | start => intro exchange member; cases member
  | resume reply before asked meanwhile answers permitted ih =>
    intro exchange member
    rcases List.mem_append.mp member with earlier | last
    · exact ih exchange earlier
    · rw [List.mem_singleton.mp last]
      have laterReachable := meanwhile.reachable (before.reachable reachable)
      exact ⟨laterReachable.begun_free.tail (.aside (.noted _ rfl)),
        laterReachable.attending.enrolled.noted fun _ => ⟨rfl, rfl⟩⟩

/-- After the exchanges an operation has come to `now`, and has neither subscribed
anybody nor made an event since it was given control last. -/
structure Poised (outset : World) (exchanges : List Exchange) (now : World) : Prop where
  begun : Begun (fun _ => True) now
  enrolled : Enrolled now
  subscribers : ∀ event, now.subscribers event = (outset.latest exchanges).subscribers event

namespace Poised

variable {outset now later : World} {exchanges : List Exchange} {added : List Happening}

theorem attended {exchange : Exchange} (attended : exchange.Attended) :
    Poised outset (exchanges ++ [exchange]) exchange.resumed where
  begun := attended.begun
  enrolled := attended.enrolled
  subscribers _ := by rw [World.latest_append]

theorem course (poised : Poised outset exchanges now) (path : Path (fun _ => True) now later)
    (events : later.library.events = now.library.events)
    (history : later.history = now.history ++ added)
    (quiet : ∀ event, ∀ happening ∈ added, happening.Quiet event) :
    Poised outset exchanges later where
  begun := poised.begun.trans path
  enrolled := poised.enrolled.quiet events history quiet
  subscribers event := by
    rw [World.subscribers_of_none history fun happening member =>
      (quiet event happening member).subscribed]
    exact poised.subscribers event

theorem silent (poised : Poised outset exchanges now) (path : Path (fun _ => True) now later)
    (events : later.library.events = now.library.events) (history : later.history = now.history) :
    Poised outset exchanges later :=
  poised.course path events (history.trans (List.append_nil _).symm) fun _ =>
    List.forall_mem_nil _

theorem latest {begun : World} (poised : Poised outset [] begun)
    (attended : ∀ exchange ∈ exchanges, exchange.Attended) :
    Poised outset exchanges (begun.latest exchanges) := by
  rcases List.eq_nil_or_concat exchanges with rfl | ⟨earlier, last, rfl⟩
  · exact poised
  · rw [List.concat_eq_append, World.latest_append]
    exact .attended (attended last (by simp))

theorem struck (poised : Poised outset exchanges now) {space : SpaceId} {file : ObjectFileId}
    (member : file ∈ now.library.owned space) :
    Poised outset exchanges (now.withoutFile space file) := by
  apply poised.course (.single (Move.withoutFile member)) rfl rfl
  intro event happening only
  rw [List.mem_singleton.mp only]
  exact ⟨rfl, rfl⟩

end Poised

/-! ### One posting -/

/-- A posting that began after `earlier` calls the listener that comes next. It calls
the first one while the library is as in `opening`. -/
def Telling (data : Value) (listeners : List FunctionId) (earlier : List Exchange)
    (opening : Library) (exchanges : List Exchange) (now : World) (request : Call) : Prop :=
  ∃ own, exchanges = earlier ++ own ∧ Due data listeners own request ∧
    (own = [] → now.library = opening)

/-- A posting that began after `earlier` is over. -/
def Posted (outset : World) (data : Value) (listeners : List FunctionId) (earlier : List Exchange)
    (outcome : Except Raised Unit) (exchanges : List Exchange) (now : World) : Prop :=
  ∃ own, exchanges = earlier ++ own ∧ Delivery () data listeners own outcome ∧
    (outcome = .ok () → Poised outset exchanges now)

section Conducts

variable {outset now : World} {data : Value} {listeners told rest : List FunctionId}
  {earlier own : List Exchange} {opening : Library}

/-- The rest of the list is told, after those that were told already. -/
theorem conducts_telling (poised : Poised outset (earlier ++ own) now)
    (heard : Heard data told own) (order : listeners = told ++ rest)
    (opens : own = [] → now.library = opening) :
    ConductsWhile Exchange.Attended (Telling data listeners earlier opening)
      ((rest.map Listener.client).forM (Event.notify data)) (earlier ++ own) now
      (Posted outset data listeners earlier) := by
  induction rest generalizing told own now with
  | nil =>
    rw [List.append_nil] at order
    subst order
    exact fun _ => ⟨own, rfl, .complete heard, fun _ => poised⟩
  | cons function rest ih =>
    refine ⟨fun _ => ⟨own, rfl, .next order heard, opens⟩, fun reply later _ => ?_⟩
    rw [List.append_assoc]
    cases reply with
    | returned value =>
      generalize exchangeEq : Exchange.mk _ later = exchange
      have resumed : exchange.resumed = later := by rw [← exchangeEq]
      by_cases attended : exchange.Attended
      · have poisedLater : Poised outset (earlier ++ (own ++ [exchange])) later := by
          rw [← List.append_assoc, ← resumed]
          exact .attended attended
        apply ih poisedLater (heard.concat (by rw [← exchangeEq]) (by rw [← exchangeEq]))
        · rw [order, List.append_assoc]
          rfl
        · exact fun empty => absurd empty (List.concat_ne_nil _ _)
      · exact conductsWhile_unusual _ fun all => attended (all exchange (by simp))
    | thrown value =>
      exact fun _ => ⟨_, rfl, .broken (.next order heard) rfl, nofun⟩

theorem conducts_tellingAll (poised : Poised outset earlier now) (data : Value)
    (listeners : List FunctionId) :
    ConductsWhile Exchange.Attended (Telling data listeners earlier now.library)
      ((listeners.map Listener.client).forM (Event.notify data)) earlier now
      (Posted outset data listeners earlier) := by
  have begins : Poised outset (earlier ++ []) now := by rwa [List.append_nil]
  have nobody : Heard data [] [] := .nobody
  have telling := conducts_telling begins nobody (List.nil_append listeners).symm fun _ => rfl
  rwa [List.append_nil] at telling

theorem conducts_post (poised : Poised outset earlier now) {event : EventId}
    (other : event ≠ destroyedEvent) :
    ConductsWhile Exchange.Attended
      (Telling data ((outset.latest earlier).subscribers event) earlier now.library)
      (Event.post event data) earlier now
      (Posted outset data ((outset.latest earlier).subscribers event) earlier) := by
  have heard := poised.enrolled.listeners event
  rw [if_neg other, poised.subscribers] at heard
  apply conducts_library
  rw [heard]
  exact conducts_tellingAll poised data _

/-- The library lets go of the file before the first client is told. -/
theorem conducts_postDestroyed (poised : Poised outset earlier now) {file : ObjectFileId}
    (gone : now.library.Gone file) (attached : now.library.isAttached file = true) :
    ConductsWhile Exchange.Attended
      (Telling (.objectFile file) ((outset.latest earlier).subscribers destroyedEvent) earlier
        ((Logging.release file).apply now.library).2)
      (Event.post destroyedEvent (.objectFile file)) earlier now
      (Posted outset (.objectFile file) ((outset.latest earlier).subscribers destroyedEvent)
        earlier) := by
  have heard := poised.enrolled.listeners destroyedEvent
  rw [if_pos rfl, poised.subscribers] at heard
  have releases := poised.begun.sound.debugDataOf?_release attached
  have move : Move (fun _ => True) now (now.after (Logging.release file)) :=
    .relogged (.released file gone)
  have events := congrArg Library.events (Logging.bare_release now.library file)
  have released := poised.silent (.single move) events rfl
  apply conducts_library
  rw [heard]
  change ConductsWhile _ _ (Routine.edit (Logging.release file) >>= fun _ =>
    (((outset.latest earlier).subscribers destroyedEvent).map Listener.client).forM
      (Event.notify (.objectFile file))) earlier now _
  apply conductsWhile_edit
  · exact fun _ _ => conducts_tellingAll released (.objectFile file) _
  · intro error failed
    rw [releases.1] at failed
    cases failed

/-- Where a removal comes to its first listener, the table that was set last is active
again. -/
theorem conducts_removing (poised : Poised outset earlier now) {space : SpaceId}
    {file : ObjectFileId} (member : file ∈ now.library.owned space) :
    ConductsWhile Exchange.Attended
      (Telling (.objectFile file) ((outset.latest earlier).subscribers destroyedEvent) earlier
        ((do
          ProgramSpace.strike space file
          Logging.release file : Edit Unit).apply now.library).2)
      (ProgramSpace.removeObjectFile space file) earlier now
      fun outcome exchanges later =>
        Posted outset (.objectFile file) ((outset.latest earlier).subscribers destroyedEvent) earlier
          outcome exchanges later ∧
        Dwindles (ProgramSpace.struck now.library space file) later.library := by
  have registered := poised.begun.sound.registered
  have gone : (now.withoutFile space file).library.Gone file := registered.gone_struck member
  have attached : (now.withoutFile space file).library.isAttached file = true :=
    registered.attached space file member
  have struck := ProgramSpace.apply_strike_of_mem member
  have announced : (now.after (ProgramSpace.strike space file)).note (.reached (.destroyed file)) =
      now.withoutFile space file := by
    unfold World.after World.withoutFile
    rw [struck]
  have posting := (conducts_postDestroyed (poised.struck member) gone attached).rewritten
    ((reworks_post destroyedEvent (.objectFile file)).rewrites _)
  rw [apply_strike_release member]
  change ConductsWhile _ _ (Routine.edit (ProgramSpace.strike space file) >>= _) earlier now _
  apply conductsWhile_edit
  · intro _ _
    change ConductsWhile _ _ (Event.post destroyedEvent (.objectFile file) >>= fun _ =>
      Routine.edit (Edit.detach file)) earlier
        ((now.after (ProgramSpace.strike space file)).note (.reached (.destroyed file))) _
    rw [announced]
    apply posting.bind
    · rintro _ exchanges later ⟨⟨own, exchangesEq, delivery, onward⟩, rewritten⟩ _
      have dwindles : Dwindles (now.withoutFile space file).library later.library :=
        Rewritten.dwindles rewritten
      have detached : Move (fun _ => True) later (later.after (Edit.detach file)) :=
        .fileDetached file (dwindles.progress.gone file gone)
      refine ⟨⟨own, exchangesEq, delivery, fun _ => ?_⟩, dwindles.trans detached.rewritten.dwindles⟩
      exact (onward rfl).silent (.single detached) rfl rfl
    · rintro error exchanges later ⟨told, rewritten⟩
      exact ⟨told, Rewritten.dwindles rewritten⟩
  · intro error failed
    rw [struck] at failed
    cases failed

end Conducts

/-! ### One posting after another -/

structure Posting where
  event : EventId
  data : Value

def Posting.destroyed (file : ObjectFileId) : Posting :=
  { event := destroyedEvent, data := .objectFile file }

/-- After `preface` the postings were made one after another, and all their listeners
returned. Each had the listeners that were subscribed when it began. -/
inductive Delivered (outset : World) (preface : List Exchange) :
    List Posting → List Exchange → Prop
  | nothing : Delivered outset preface [] preface
  | more {postings : List Posting} {posting : Posting} {earlier own : List Exchange}
      (before : Delivered outset preface postings earlier)
      (heard : Heard posting.data ((outset.latest earlier).subscribers posting.event) own) :
      Delivered outset preface (postings ++ [posting]) (earlier ++ own)

/-- The last of the postings calls the listener that comes next, and those before are
over. -/
inductive Outstanding (outset : World) (preface : List Exchange) :
    List Posting → List Exchange → Call → Prop
  | next {postings : List Posting} {posting : Posting} {earlier own : List Exchange}
      {request : Call} (before : Delivered outset preface postings earlier)
      (due : Due posting.data ((outset.latest earlier).subscribers posting.event) own request) :
      Outstanding outset preface (postings ++ [posting]) (earlier ++ own) request

/-- All postings are over, or a listener of the last threw. -/
inductive Conclusion {α : Type} (finished : α) (outset : World) (preface : List Exchange) :
    List Posting → List Exchange → Except Raised α → Prop
  | complete {postings : List Posting} {exchanges : List Exchange}
      (delivered : Delivered outset preface postings exchanges) :
      Conclusion finished outset preface postings exchanges (.ok finished)
  | broken {postings : List Posting} {posting : Posting} {earlier own : List Exchange}
      {raised : Raised} (before : Delivered outset preface postings earlier)
      (broken : Delivery finished posting.data ((outset.latest earlier).subscribers posting.event)
        own (.error raised)) :
      Conclusion finished outset preface (postings ++ [posting]) (earlier ++ own) (.error raised)

section Sequences

variable {outset now : World} {preface exchanges earlier : List Exchange}
  {postings : List Posting} {posting : Posting} {opening : Library} {request : Call}
  {outcome : Except Raised Unit}

theorem Telling.outstanding
    (telling : Telling posting.data ((outset.latest earlier).subscribers posting.event) earlier
      opening exchanges now request)
    (before : Delivered outset preface postings earlier) :
    Outstanding outset preface (postings ++ [posting]) exchanges request := by
  obtain ⟨own, rfl, due, _⟩ := telling
  exact .next before due

theorem Posted.conclusion
    (told : Posted outset posting.data ((outset.latest earlier).subscribers posting.event) earlier
      outcome exchanges now)
    (before : Delivered outset preface postings earlier) :
    Conclusion () outset preface (postings ++ [posting]) exchanges outcome := by
  obtain ⟨own, rfl, delivery, _⟩ := told
  cases delivery with
  | complete heard => exact .complete (.more before heard)
  | broken due thrown => exact .broken before (.broken due thrown)

theorem Posted.delivered
    (told : Posted outset posting.data ((outset.latest earlier).subscribers posting.event) earlier
      (.ok ()) exchanges now)
    (before : Delivered outset preface postings earlier) :
    Delivered outset preface (postings ++ [posting]) exchanges := by
  obtain ⟨own, rfl, delivery, _⟩ := told
  cases delivery with
  | complete heard => exact .more before heard

/-- What comes after the postings neither posts nor fails. -/
theorem Conclusion.map {β : Type} {finished : β}
    (conclusion : Conclusion () outset preface postings exchanges outcome) :
    Conclusion finished outset preface postings exchanges (outcome.map fun _ => finished) := by
  cases conclusion with
  | complete delivered => exact .complete delivered
  | broken before broken =>
    cases broken with
    | broken due thrown => exact .broken before (.broken due thrown)

end Sequences

/-! ### The operations that post -/

section Operations

variable {outset now : World} {exchanges preface : List Exchange} {postings : List Posting}
  {space : SpaceId} {file : ObjectFileId}

theorem conducts_posting (poised : Poised outset exchanges now)
    (before : Delivered outset preface postings exchanges) {event : EventId}
    (other : event ≠ destroyedEvent) (data : Value) :
    ConductsWhile Exchange.Attended
      (fun exchanges _ request => Outstanding outset preface
        (postings ++ [{ event := event, data := data }]) exchanges request)
      (Event.post event data) exchanges now
      fun outcome exchanges _ => Conclusion () outset preface
        (postings ++ [{ event := event, data := data }]) exchanges outcome :=
  ((conducts_post poised other).allow fun _ _ _ telling => Telling.outstanding telling before).mono
    fun _ _ _ told => Posted.conclusion told before

theorem conducts_postRemoval (poised : Poised outset exchanges now)
    (before : Delivered outset preface postings exchanges)
    (member : file ∈ now.library.owned space) :
    ConductsWhile Exchange.Attended
      (fun exchanges _ request =>
        Outstanding outset preface (postings ++ [.destroyed file]) exchanges request)
      (ProgramSpace.removeObjectFile space file) exchanges now
      fun outcome exchanges later =>
        Conclusion () outset preface (postings ++ [.destroyed file]) exchanges outcome ∧
        (outcome = .ok () → Delivered outset preface (postings ++ [.destroyed file]) exchanges ∧
          Poised outset exchanges later) ∧
        Dwindles (ProgramSpace.struck now.library space file) later.library := by
  apply ((conducts_removing poised member).allow fun _ _ _ telling => ?_).mono
  · rintro outcome after later ⟨told, dwindles⟩
    refine ⟨Posted.conclusion told before, ?_, dwindles⟩
    rintro rfl
    have delivered : Delivered outset preface (postings ++ [.destroyed file]) after :=
      Posted.delivered told before
    obtain ⟨_, _, _, poisedLater⟩ := told
    exact ⟨delivered, poisedLater rfl⟩
  · exact Telling.outstanding telling before

/-- What a disposal posts: the files it has removed are, from the last to the first,
among those that were listed at the outset. -/
theorem conducts_postRemovals {files whole : List ObjectFileId} {count : Nat}
    (poised : Poised outset exchanges now)
    (before : Delivered outset [] (files.map .destroyed) exchanges)
    (closed : now.library.Closed space)
    (fromEnd : (now.library.owned space ++ files.reverse).Sublist whole) :
    ConductsWhile Exchange.Attended
      (fun exchanges _ request => ∃ files : List ObjectFileId, files.reverse.Sublist whole ∧
        Outstanding outset [] (files.map .destroyed) exchanges request)
      (ProgramSpace.removeAll space count) exchanges now
      fun outcome exchanges _ => ∃ files : List ObjectFileId, files.reverse.Sublist whole ∧
        Conclusion () outset [] (files.map .destroyed) exchanges outcome := by
  have removed := (List.sublist_append_right _ _).trans fromEnd
  induction count generalizing exchanges files now with
  | zero => exact fun _ => ⟨files, removed, .complete before⟩
  | succ count ih =>
    apply conducts_library
    cases last : (now.library.owned space).getLast? with
    | none => exact fun _ => ⟨files, removed, .complete before⟩
    | some file =>
      have member := List.mem_of_getLast? last
      have struck := ProgramSpace.owned_struck_last last
        (poised.begun.sound.registered.nodup space)
      have shorter : ((ProgramSpace.struck now.library space file).owned space ++
          (files ++ [file]).reverse).Sublist whole := by
        rw [List.reverse_append, ← List.append_assoc, List.reverse_singleton, ← struck]
        exact fromEnd
      have further := (List.sublist_append_right _ _).trans shorter
      have extended : (files ++ [file]).map Posting.destroyed =
          files.map Posting.destroyed ++ [.destroyed file] := List.map_append
      have removing := (conducts_postRemoval poised before member).allow fun _ _ _ outstanding =>
        (⟨files ++ [file], further, extended ▸ outstanding⟩ :
          ∃ files : List ObjectFileId, files.reverse.Sublist whole ∧
            Outstanding outset [] (files.map .destroyed) _ _)
      apply removing.bind
      · rintro _ exchanges later ⟨_, onward, dwindles⟩
        obtain ⟨delivered, poisedLater⟩ := onward rfl
        obtain ⟨closedLater, fewer⟩ :=
          dwindles.closed space ((Dwindles.strike now.library space file).closed space closed).1
        exact ih poisedLater (extended ▸ delivered) closedLater
          ((fewer.append_right _).trans shorter) further
      · rintro error exchanges later ⟨conclusion, _⟩
        exact ⟨files ++ [file], further, extended ▸ conclusion⟩

theorem conducts_postDisposal (poised : Poised outset [] now)
    (opened : now.library.isDisposed space = false) :
    ConductsWhile Exchange.Attended
      (fun exchanges _ request => ∃ files : List ObjectFileId,
        files.reverse.Sublist (now.library.owned space) ∧
        Outstanding outset [] (files.map .destroyed) exchanges request)
      (ProgramSpace.dispose space) [] now
      fun outcome exchanges _ => ∃ files : List ObjectFileId,
        files.reverse.Sublist (now.library.owned space) ∧
        Conclusion () outset [] (files.map .destroyed) exchanges outcome := by
  have move : Move (fun _ => True) now (now.after (ProgramSpace.markDisposed space)) :=
    .spaceClosed space opened
  have marked := poised.silent (.single move) rfl rfl
  have none : Delivered outset [] (([] : List ObjectFileId).map .destroyed) [] := .nothing
  have listed : ((now.after (ProgramSpace.markDisposed space)).library.owned space ++
      ([] : List ObjectFileId).reverse).Sublist (now.library.owned space) := by
    change (((ProgramSpace.markDisposed space).apply now.library).2.owned space ++ []).Sublist _
    rw [List.append_nil, ProgramSpace.owned_markDisposed]
  apply conducts_library
  rw [if_neg (ne_true_of_eq_false opened)]
  apply conductsWhile_edit
  · intro _ _
    apply (conducts_postRemovals marked none (ProgramSpace.closed_markDisposed opened)
      listed).bind
    · exact fun _ exchanges later concluded _ => concluded
    · exact fun error exchanges later concluded => concluded
  · intro error failed
    cases failed

/-- A finish that has ended without posting anything: the reader's function threw, or the
removal was refused. -/
inductive Withheld {α : Type} (begun : World) (space : SpaceId) (file : ObjectFileId)
    (exchanges : List Exchange) (now : World) : Except Raised α → Prop
  | raised {raised : Raised}
      (called : SymbolFile.Called begun file .finish [.objectFile file] (.error raised) exchanges
        now) :
      Withheld begun space file exchanges now (.error raised)
  | refused
      (called : SymbolFile.Called begun file .finish [.objectFile file] (.ok ()) exchanges now)
      (unlisted : file ∉ now.library.owned space) :
      Withheld begun space file exchanges now (.error (now.library.refusal space file))

/-- The reader's function for finishing has returned, after the exchanges `preface`, and
the space lists the file. -/
def Readied (begun : World) (space : SpaceId) (file : ObjectFileId)
    (preface : List Exchange) : Prop :=
  ∃ finished, SymbolFile.Called begun file .finish [.objectFile file] (.ok ()) preface finished ∧
    file ∈ finished.library.owned space

theorem SymbolFile.Called.poised {begun : World} {slot : Slot} {arguments : List Value}
    {outcome : Except Raised Unit}
    (called : SymbolFile.Called begun file slot arguments outcome exchanges now)
    (poised : Poised outset [] begun) (attended : ∀ exchange ∈ exchanges, exchange.Attended) :
    Poised outset exchanges now := by
  cases called with
  | bare missing => exact poised
  | absent active missing => exact poised
  | ended active present ending =>
    obtain ⟨values, rfl⟩ := ending.idle
    exact (poised.latest attended).silent (Course.renderAll _ values).path rfl rfl

theorem conducts_postFinish {begun : World} (poised : Poised outset [] begun) :
    ConductsWhile Exchange.Attended
      (fun exchanges now request =>
        SymbolFile.Calling begun file .finish [.objectFile file] exchanges now request ∨
        ∃ preface, Readied begun space file preface ∧
          Outstanding outset preface [.destroyed file] exchanges request)
      (SymbolFile.finish space file) [] begun
      fun outcome exchanges now =>
        Withheld begun space file exchanges now outcome ∨
        ∃ preface, Readied begun space file preface ∧
          Conclusion () outset preface [.destroyed file] exchanges outcome := by
  have calling : ConductsWhile Exchange.Attended
      (SymbolFile.Calling begun file .finish [.objectFile file])
      (SymbolFile.callPresent file .finish [.objectFile file]) [] begun
      (SymbolFile.Called begun file .finish [.objectFile file]) :=
    (SymbolFile.conducts_callPresent begun file .finish [.objectFile file]).conductsWhile
  apply (calling.allow fun _ _ _ asks => Or.inl asks).bind
  · intro _ exchanges now called
    by_cases attended : ∀ exchange ∈ exchanges, exchange.Attended
    · have poisedNow := called.poised poised attended
      by_cases listed : file ∈ now.library.owned space
      · have readied : Readied begun space file exchanges := ⟨now, called, listed⟩
        apply ((conducts_postRemoval poisedNow .nothing listed).allow fun _ _ _ asks => ?_).mono
        · rintro outcome after later ⟨conclusion, _⟩
          exact Or.inr ⟨exchanges, readied, conclusion⟩
        · exact Or.inr ⟨exchanges, readied, asks⟩
      · apply (conducts_removeObjectFile_of_unlisted listed).conductsWhile.mono
        rintro _ _ _ ⟨rfl, rfl, rfl⟩
        exact Or.inl (.refused called listed)
    · exact conductsWhile_unusual _ attended
  · exact fun error exchanges now called => Or.inl (.raised called)

end Operations

/-! ### Postings in a run -/

/-- The operations that post: what a client posts, and the removal, the disposal and the
finish by which object files are destroyed. -/
inductive Operation.Announces (library : Library) : Operation → Prop
  | client {event : EventId} (other : event ≠ destroyedEvent) (data : Value) :
      Announces library (.post event data)
  | removal {space : SpaceId} {file : ObjectFileId} (member : file ∈ library.owned space) :
      Announces library (.removeObjectFile space file)
  | disposal {space : SpaceId} (opened : library.isDisposed space = false) :
      Announces library (.dispose space)
  | finish (space : SpaceId) (file : ObjectFileId) :
      Announces library (.finishSymbolFile space file)

/-- What an operation posts, and the exchanges that it has had before. -/
inductive Operation.Posts (outset : Moment) : Operation → List Exchange → List Posting → Prop
  | client (event : EventId) (data : Value) :
      Posts outset (.post event data) [] [{ event := event, data := data }]
  | removal (space : SpaceId) (file : ObjectFileId) :
      Posts outset (.removeObjectFile space file) [] [.destroyed file]
  | disposal {space : SpaceId} {files : List ObjectFileId}
      (fromEnd : files.reverse.Sublist (outset.library.owned space)) :
      Posts outset (.dispose space) [] (files.map .destroyed)
  | finish {space : SpaceId} {file : ObjectFileId} {preface : List Exchange}
      (readied : Readied (outset.note (.started (.finishSymbolFile space file))) space file
        preface) :
      Posts outset (.finishSymbolFile space file) preface [.destroyed file]

/-- An operation that posts calls the listener that comes next, or it is a finish that
still calls the reader. -/
inductive Operation.Asks (outset : Moment) (exchanges : List Exchange) (now : World)
    (request : Call) : Operation → Prop
  | listener {operation : Operation} {preface : List Exchange} {postings : List Posting}
      (posts : operation.Posts outset preface postings)
      (outstanding : Outstanding outset.toWorld preface postings exchanges request) :
      Asks outset exchanges now request operation
  | reader {space : SpaceId} {file : ObjectFileId}
      (calling : SymbolFile.Calling (outset.note (.started (.finishSymbolFile space file))) file
        .finish [.objectFile file] exchanges now request) :
      Asks outset exchanges now request (.finishSymbolFile space file)

/-- An operation that posts is over when its postings are, or it is a finish that came to
none. -/
inductive Operation.Ends (outset : Moment) (outcome : Except Raised Result)
    (exchanges : List Exchange) (now : World) : Operation → Prop
  | posted {operation : Operation} {preface : List Exchange} {postings : List Posting}
      (posts : operation.Posts outset preface postings)
      (conclusion : Conclusion .nothing outset.toWorld preface postings exchanges outcome) :
      Ends outset outcome exchanges now operation
  | withheld {space : SpaceId} {file : ObjectFileId}
      (withheld : Withheld (outset.note (.started (.finishSymbolFile space file))) space file
        exchanges now outcome) :
      Ends outset outcome exchanges now (.finishSymbolFile space file)

/-- Where an operation that posts stands in a run. -/
inductive Delivering (operation : Operation) (outset : Moment) (exchanges : List Exchange) :
    Moment → Prop
  | waiting {now : World} {request : Call} {next : Reply → Routine Result}
      (asks : operation.Asks outset exchanges now request) :
      Delivering operation outset exchanges
        { now.note (.called operation request) with
          pending :=
            { operation := operation, request := request, next := next } :: outset.pending }
  | ended {now : World} {outcome : Except Raised Result}
      (ends : operation.Ends outset outcome exchanges now) :
      Delivering operation outset exchanges
        { now.note (.finished operation outcome) with pending := outset.pending }

theorem Operation.Announces.spares_events {operation : Operation} {library : Library}
    (announces : operation.Announces library) : operation.routine.Steady Library.events := by
  apply Operation.spares_events
  cases announces <;> exact not_false

theorem Reachable.poised {outset : Moment} (reachable : Reachable .free outset)
    (operation : Operation) : Poised outset.toWorld [] (outset.note (.started operation)) where
  begun := reachable.begun_free.tail (.aside (.noted _ rfl))
  enrolled := reachable.attending.enrolled.noted fun _ => ⟨rfl, rfl⟩
  subscribers _ := by
    have added : (outset.note (.started operation)).history =
        outset.history ++ [.started operation] := rfl
    apply World.subscribers_of_none added
    intro happening member
    rw [List.mem_singleton.mp member]
    rfl

/-- An operation whose answer tells nothing ends as its routine does. -/
theorem Routine.ConductsWhile.answers {usual : Exchange → Prop}
    {during : List Exchange → World → Call → Prop} {routine : Routine Unit}
    {exchanges : List Exchange} {now : World}
    {post : Except Raised Unit → List Exchange → World → Prop}
    {ended : Except Raised Result → List Exchange → World → Prop}
    (conducts : ConductsWhile usual during routine exchanges now post)
    (implies : ∀ outcome exchanges now, post outcome exchanges now →
      ended (outcome.map fun _ => .nothing) exchanges now) :
    ConductsWhile usual during (routine >>= fun _ => pure Result.nothing) exchanges now ended :=
  conducts.bind (fun _ exchanges now reached _ => implies (.ok ()) exchanges now reached)
    fun error exchanges now reached => implies (.error error) exchanges now reached

theorem Withheld.map {begun now : World} {space : SpaceId} {file : ObjectFileId}
    {exchanges : List Exchange} {outcome : Except Raised Unit} {β : Type} {finished : β}
    (withheld : Withheld begun space file exchanges now outcome) :
    Withheld begun space file exchanges now (outcome.map fun _ => finished) := by
  cases withheld with
  | raised called => exact .raised called
  | refused called unlisted => exact .refused called unlisted

theorem Operation.Announces.conducts {outset : Moment} {operation : Operation}
    (reachable : Reachable .free outset) (announces : operation.Announces outset.library) :
    ConductsWhile Exchange.Attended (fun exchanges now request =>
        operation.Asks outset exchanges now request)
      operation.routine [] (outset.note (.started operation))
      fun outcome exchanges now => operation.Ends outset outcome exchanges now := by
  have poised := reachable.poised operation
  cases announces with
  | @client event other data =>
    apply ((conducts_posting poised .nothing other data).allow fun _ _ _ asks => ?_).answers
    · exact fun _ _ _ conclusion => .posted (.client event data) (Conclusion.map conclusion)
    · exact .listener (.client event data) asks
  | @removal space file member =>
    apply ((conducts_postRemoval poised .nothing member).allow fun _ _ _ asks => ?_).answers
    · exact fun _ _ _ ended => .posted (.removal space file) (Conclusion.map ended.1)
    · exact .listener (.removal space file) asks
  | disposal opened =>
    apply ((conducts_postDisposal poised opened).allow fun _ _ _ asks => ?_).answers
    · rintro _ _ _ ⟨files, fromEnd, conclusion⟩
      exact .posted (.disposal fromEnd) (Conclusion.map conclusion)
    · obtain ⟨files, fromEnd, outstanding⟩ := asks
      exact .listener (.disposal fromEnd) outstanding
  | finish space file =>
    apply ((conducts_postFinish poised).allow fun _ _ _ asks => ?_).answers
    · rintro _ _ _ (withheld | ⟨preface, readied, conclusion⟩)
      · exact .withheld (Withheld.map withheld)
      · exact .posted (.finish readied) (Conclusion.map conclusion)
    · rcases asks with calling | ⟨preface, readied, outstanding⟩
      · exact .reader calling
      · exact .listener (.finish readied) outstanding

/-- An operation that posts makes its postings one after the other. Each of them calls
exactly the listeners that were subscribed when it began, in the order of their
subscriptions and as often as they were subscribed, each with the data, whatever they do
meanwhile. If one throws, the later ones are not called and the operation ends with the
value thrown. The operation itself subscribes nobody and takes no subscription back. A
function that is subscribed, be it in the course of a posting, is a subscriber to every
posting that begins later. -/
theorem Reachable.postings_deliver {outset later : Moment} {operation : Operation}
    {exchanges : List Exchange} (reachable : Reachable .free outset)
    (announces : operation.Announces outset.library)
    (dialogue : Dialogue .free operation outset exchanges later) :
    Delivering operation outset exchanges later ∧
    later.library.events = (outset.latest exchanges).library.events ∧
    ∀ (during after : Moment) (subscribed : EventId) (function : FunctionId),
      during.Knows subscribed →
      Meanwhile .free [] (during.start (.subscribe subscribed function)) after →
        during.subscribers subscribed ++ [function] <+: after.subscribers subscribed := by
  refine ⟨?_, (dialogue.kept announces.spares_events).1, ?_⟩
  · rcases dialogue.stands reachable (announces.conducts reachable) (dialogue.attended reachable)
      with ⟨now, request, next, asks, rfl⟩ | ⟨now, outcome, ends, rfl⟩
    · exact .waiting asks
    · exact .ended ends
  · intro during after subscribed function knows meanwhile
    have history : (during.start (.subscribe subscribed function)).history =
        during.history ++ [.started (.subscribe subscribed function),
          .finished (.subscribe subscribed function) (.ok .nothing)] := List.append_assoc ..
    have added : (during.start (.subscribe subscribed function)).subscribers subscribed =
        during.subscribers subscribed ++ [function] := by
      unfold World.subscribers
      rw [World.since_of_knows history knows, List.filterMap_append]
      simp [List.filterMap_cons]
    have known : (during.start (.subscribe subscribed function)).Knows subscribed :=
      knows.later ⟨_, history.symm⟩
    rw [← added]
    exact World.subscribers_prefix known meanwhile.history

/-- A run in which an event has been created and three subscriptions made to it, the
first and the last of the same function. -/
def Moment.listening : Moment :=
  (((Moment.initial.start .createEvent).start (.subscribe { index := 1 } { index := 0 })).start
    (.subscribe { index := 1 } { index := 1 })).start (.subscribe { index := 1 } { index := 0 })

theorem reachable_listening : Reachable .free Moment.listening := by
  have may : ∀ {moment : Moment} {happening : Happening}, Rules.free moment happening :=
    fun _ _ => trivial
  have created : Reachable .free _ := .start .createEvent .initial trivial may
  have first : Reachable .free _ :=
    .start (.subscribe { index := 1 } { index := 0 }) created trivial may
  have second : Reachable .free _ :=
    .start (.subscribe { index := 1 } { index := 1 }) first trivial may
  exact .start (.subscribe { index := 1 } { index := 0 }) second trivial may

/-- The first listener subscribes another one. -/
def Moment.joined : Moment :=
  (Moment.listening.start (.post { index := 1 } .absent)).start
    (.subscribe { index := 1 } { index := 2 })

/-- The second listener has thrown. -/
def Moment.interrupted : Moment :=
  (Moment.joined.answer (.returned .absent)).answer (.thrown .null)

/-- What is subscribed in the course of a posting is told by the next one, as the second
file of a disposal shows. -/
theorem postings_deliver_listening :
    (∃ exchanges, exchanges.length = 2 ∧
      Delivering (.post { index := 1 } .absent) Moment.listening exchanges Moment.interrupted) ∧
    [{ index := 0 }, { index := 1 }, { index := 0 }, { index := 2 }] <+:
      Moment.interrupted.subscribers { index := 1 } ∧
    ∃ exchanges later, Dialogue .free (.dispose { index := 0 }) Moment.furnished exchanges later ∧
      (exchanges.map fun exchange => exchange.request) =
        [.function { index := 0 } none [.objectFile { index := 1 }],
          .function { index := 0 } none [.objectFile { index := 0 }],
          .function { index := 7 } none [.objectFile { index := 0 }]] ∧
      Delivering (.dispose { index := 0 }) Moment.furnished exchanges later := by
  have may : ∀ {moment : Moment} {happening : Happening}, Rules.free moment happening :=
    fun _ _ => trivial
  have other : ({ index := 1 } : EventId) ≠ destroyedEvent := by decide
  have posted : Dialogue .free (.post { index := 1 } .absent) Moment.listening [] _ :=
    .start other may
  have told := Dialogue.resume (.returned .absent) posted rfl
    (.start (.subscribe { index := 1 } { index := 2 }) .refl trivial may) rfl may
  have thrown := Dialogue.resume (.thrown .null) told rfl .refl rfl may
  obtain ⟨delivering, _, lasting⟩ :=
    reachable_listening.postings_deliver (.client other .absent) thrown
  refine ⟨⟨_, rfl, delivering⟩, ?_, ?_⟩
  · have during : (Moment.listening.start (.post { index := 1 } .absent)).Knows { index := 1 } :=
      Or.inr ⟨_, List.mem_cons_of_mem _ (List.mem_cons_self ..), rfl⟩
    have answered : Meanwhile .free [] Moment.joined (Moment.joined.answer (.returned .absent)) :=
      .resume (.returned .absent) .refl rfl List.nil_suffix may
    have after : Meanwhile .free [] Moment.joined Moment.interrupted :=
      .resume (.thrown .null) answered rfl List.nil_suffix may
    exact lasting _ _ { index := 1 } { index := 2 } during after
  · have begun : Dialogue .free (.dispose { index := 0 }) Moment.furnished [] _ :=
      .start trivial may
    have first := begun.resume (.returned .absent) rfl
      (.start (.subscribe destroyedEvent { index := 7 }) .refl trivial may) rfl may
    have second := first.resume (.returned .absent) rfl .refl rfl may
    have ended := second.resume (.returned .absent) rfl .refl rfl may
    obtain ⟨disposed, _⟩ := reachable_furnished.postings_deliver (.disposal rfl) ended
    exact ⟨_, _, ended, rfl, disposed⟩

/-! ### The library's own listener -/

/-- When the removal of an object file calls a client for the first time, the library has
taken the logging off the file, whose table is again the one that was set last. -/
theorem Reachable.removal_restores {moment : Moment} (reachable : Reachable .free moment)
    {space : SpaceId} {file : ObjectFileId} (member : file ∈ moment.library.owned space)
    {frame : Frame}
    (waiting : (moment.start (.removeObjectFile space file)).pending = frame :: moment.pending) :
    (moment.start (.removeObjectFile space file)).library =
      ((do
        ProgramSpace.strike space file
        Logging.release file : Edit Unit).apply moment.library).2 ∧
    (moment.start (.removeObjectFile space file)).library.tableOf? file =
      moment.lastTable file := by
  have poised := reachable.poised (.removeObjectFile space file)
  have conducts : ConductsWhile Exchange.Attended _
      (Operation.removeObjectFile space file).routine [] _ fun _ _ _ => True :=
    (conducts_removing poised member).answers fun _ _ _ _ => trivial
  have begun : Dialogue .free (.removeObjectFile space file) moment [] _ :=
    .start trivial fun _ _ => trivial
  have restores := restores_strike_release reachable.begun_free.sound reachable.begun_free.kept
    member
  rcases begun.stands reachable conducts (List.forall_mem_nil _) with
    ⟨now, request, next, ⟨own, nothing, _, opens⟩, momentEq⟩ | ⟨now, outcome, _, momentEq⟩
  · have opening := opens nothing.symm
    rw [momentEq]
    exact ⟨opening, opening ▸ restores.table⟩
  · rw [momentEq] at waiting
    exact absurd waiting.symm (List.cons_ne_self frame moment.pending)

end ReaderTrace
