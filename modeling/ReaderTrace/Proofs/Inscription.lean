import ReaderTrace.Proofs.Coupling
import ReaderTrace.Proofs.Parameters
import ReaderTrace.Proofs.Trail

/-!
How values stand in the records of a run.

A record shows what its operation has passed to a reader's function, or what that
function has returned. It is rendered when the record is written, and no client has had
control in between. Each reference in it therefore stands there as the token that the
address book has for it at that moment, and since tokens are kept, at every later moment
of the run. Only the texts that clients write themselves are not covered by this.
-/

namespace ReaderTrace

open Routine

/-! ### Values that have their token -/

/-- The value has its token in the book, if it needs one. -/
def AddressBook.Holds (book : AddressBook) : Value → Prop
  | .reference referent => referent ∈ book.known
  | _ => True

section Holds

variable {book longer : AddressBook} {value : Value}

theorem AddressBook.holds_enroll (book : AddressBook) (value : Value) :
    (book.enroll value).Holds value := by
  cases value with
  | reference referent => exact book.mem_known_assign referent
  | _ => exact trivial

theorem AddressBook.Holds.mono (holds : book.Holds value) (grows : book.known <+: longer.known) :
    longer.Holds value := by
  cases value with
  | reference referent => exact grows.subset holds
  | _ => exact trivial

theorem AddressBook.Holds.render (holds : book.Holds value)
    (grows : book.known <+: longer.known) :
    (Record.render value longer).1 = (Record.render value book).1 := by
  apply Record.render_fst_of_prefix
  cases value with
  | reference referent =>
    change (book.assign referent).known <+: longer.known
    rw [AddressBook.known_assign_of_mem holds]
    exact grows
  | _ => exact grows

/-- A value is written with the token that it has got for this. -/
theorem AddressBook.render_enroll (book : AddressBook) (value : Value) :
    (Record.render value (book.enroll value)).1 = (Record.render value book).1 :=
  Record.render_fst_of_prefix List.prefix_rfl

theorem RecordPart.text_of_prefix {part : RecordPart}
    (held : ∀ value, part = .rendered value → book.Holds value)
    (grows : book.known <+: longer.known) : part.text longer = part.text book := by
  cases part with
  | bare text => rfl
  | rendered value => exact (held value rfl).render grows

/-- A book into which all parts were rendered holds their values. -/
theorem RecordPart.holds_foldl (parts : List RecordPart) (book : AddressBook) :
    ∀ value, .rendered value ∈ parts → (parts.foldl enroll book).Holds value := by
  induction parts generalizing book with
  | nil => intro value member; cases member
  | cons part rest ih =>
    intro value member
    rcases List.mem_cons.mp member with rfl | later
    · exact (book.holds_enroll value).mono (known_prefix_foldl rest _)
    · exact ih (enroll book part) value later

end Holds

/-- Rendering values is rendering the parts of a record that shows nothing else. -/
theorem apply_renderAll_eq (values : List Value) (library : Library) :
    (Edit.renderAll values).apply library =
      (Quick.renderParts (values.map .rendered)).apply library := by
  induction values generalizing library with
  | nil => rfl
  | cons value rest ih =>
    have onward := ih ((Edit.render value).apply library).2
    rw [List.map_cons, Quick.renderParts, Edit.apply_bind]
    change _ = ((Quick.renderParts (rest.map .rendered)) >>= fun texts =>
      pure ((Record.render value library.addresses).1 :: texts)).apply
        ((Edit.render value).apply library).2
    rw [Edit.apply_bind, ← onward]
    rfl

/-! ### Records of an operation -/

/-- The arguments that an operation passes to functions of a reader. -/
def Operation.Passes : Operation → List Value → Prop
  | .callMethod _ _ arguments _, passed => passed = arguments
  | .addSymbolFile _ _ _ _ flags, passed =>
      ∃ file, passed = [.objectFile file] ∨ passed = [.objectFile file, .number flags]
  | .finishSymbolFile _ file, passed => passed = [.objectFile file]
  | .probes file, passed => passed = [.objectFile file]
  | .relocate file sectionInfo buffer, passed => passed = [.objectFile file, sectionInfo, buffer]
  | _, _ => False

/-- The text is a record of the operation. Each value in it is one that the operation
passes on or that it has got, and is written as the book has it. A symbol table is shown
by a file name. -/
inductive Record.Legible (operation : Operation) (got : Value → Prop) (book : AddressBook) :
    String → Prop
  | call (how : Forwarding) {arguments : List Value} (passes : operation.Passes arguments)
      (held : ∀ value ∈ how.shownArguments arguments, book.Holds value) :
      Legible operation got book
        (how.callRecord ((how.shownArguments arguments).map fun value =>
          (Record.render value book).1))
  | result (how : Forwarding) {value : Value} (returned : got value) (held : book.Holds value) :
      Legible operation got book (how.resultRecord (Record.render value book).1)
  | lookup {file : ObjectFileId} {request : QuickRequest Value}
      (same : operation = .access file request) (host : String)
      (held : ∀ value, .rendered value ∈ request.recorded → book.Holds value) :
      Legible operation got book
        (Record.call TableLabel.quick.name request.function.name host
          (request.recorded.map (RecordPart.text book)))
  | found {file : ObjectFileId} {request : QuickRequest Value} {value : Value}
      (same : operation = .access file request)
      (returned : got value ∨ value = request.fallback) (held : book.Holds value) :
      Legible operation got book
        (Record.result TableLabel.quick.name request.function.name (Record.render value book).1)
  | named {file : ObjectFileId} {request : QuickRequest Value}
      (same : operation = .access file request)
      (table : request.function.yields = .symtab ∨ request.function.yields = .compunit)
      (text : String) :
      Legible operation got book
        (Record.result TableLabel.quick.name request.function.name text)
  | answer {file : ObjectFileId} {value : Value} (same : operation = .hasPartialSymbols file)
      (host : String) (returned : got value ∨ ∃ truth, value = .boolean truth)
      (held : book.Holds value) :
      Legible operation got book
        (Record.call TableLabel.quick.name QuickFunction.hasSymbols.name host [] ++ " = " ++
          (Record.render value book).1)

theorem Record.Legible.mono {operation : Operation} {got more : Value → Prop}
    {book longer : AddressBook} {record : String}
    (legible : Record.Legible operation got book record) (kept : ∀ value, got value → more value)
    (grows : book.known <+: longer.known) : Record.Legible operation more longer record := by
  cases legible with
  | @call how arguments passes held =>
    have texts : (how.shownArguments arguments).map (fun value => (Record.render value book).1) =
        (how.shownArguments arguments).map fun value => (Record.render value longer).1 := by
      apply List.map_congr_left
      exact fun value member => ((held value member).render grows).symm
    rw [texts]
    exact .call how passes fun value member => (held value member).mono grows
  | result how returned held =>
    rw [← held.render grows]
    exact .result how (kept _ returned) (held.mono grows)
  | @lookup file request same host held =>
    have texts : request.recorded.map (RecordPart.text book) =
        request.recorded.map (RecordPart.text longer) := by
      apply List.map_congr_left
      intro part member
      exact (RecordPart.text_of_prefix (fun value same => held value (same ▸ member)) grows).symm
    rw [texts]
    exact .lookup same host fun value member => (held value member).mono grows
  | found same returned held =>
    rw [← held.render grows]
    exact .found same (returned.imp_left (kept _)) (held.mono grows)
  | named same table text => exact .named same table text
  | answer same host returned held =>
    rw [← held.render grows]
    exact .answer same host (returned.imp_left (kept _)) (held.mono grows)

/-! ### Routines that write only such records -/

/-- What an operation has got when a call has been answered. What a stream returns does
not count. -/
def Call.Got (got : Value → Prop) (request : Call) (reply : Reply) (value : Value) : Prop :=
  got value ∨ ¬request.IsRecord ∧ reply = .returned value

def Call.Legible (operation : Operation) (got : Value → Prop) (book : AddressBook) : Call → Prop
  | .write _ record => Record.Legible operation got book record
  | _ => True

namespace Routine

variable {α β : Type} {operation : Operation}

/-- From the library `now` on, and whatever clients reply and do meanwhile, each record
that the routine writes is legible at that moment, and its result is as `post` says. -/
def Inscribes (operation : Operation) :
    Routine α → (Value → Prop) → Library → (α → (Value → Prop) → Prop) → Prop
  | .done outcome, got, _, post => ∀ value, outcome = .ok value → post value got
  | .read next, got, now, post => Inscribes operation (next now) got now post
  | .write library next, got, _, post => Inscribes operation next got library post
  | .call request next, got, now, post =>
      request.Legible operation got now.addresses ∧
        ∀ reply later, Inscribes operation (next reply) (request.Got got reply) later post
  | .mark _ next, got, now, post => Inscribes operation next got now post

/-- The same from every library on, with nothing said about the result. -/
def Inscribed (operation : Operation) (routine : Routine α) : Prop :=
  ∀ got now, Inscribes operation routine got now fun _ _ => True

variable {got : Value → Prop} {now : Library}

theorem Inscribes.bind {routine : Routine α} {next : α → Routine β}
    {middle : α → (Value → Prop) → Prop} {post : β → (Value → Prop) → Prop}
    (first : Inscribes operation routine got now middle)
    (second : ∀ value got later, middle value got →
      Inscribes operation (next value) got later post) :
    Inscribes operation (routine >>= next) got now post := by
  change Inscribes operation (routine.bind next) got now post
  induction routine generalizing got now with
  | done outcome =>
    cases outcome with
    | ok value => exact second value got now (first value rfl)
    | error raised => exact nofun
  | read rest ih => exact ih now first
  | write library rest ih => exact ih first
  | call request rest ih => exact ⟨first.1, fun reply later => ih reply (first.2 reply later)⟩
  | mark milestone rest ih => exact ih first

theorem Inscribes.mono {routine : Routine α} {post weaker : α → (Value → Prop) → Prop}
    (inscribes : Inscribes operation routine got now post)
    (implies : ∀ value got, post value got → weaker value got) :
    Inscribes operation routine got now weaker := by
  induction routine generalizing got now with
  | done outcome => exact fun value same => implies value got (inscribes value same)
  | read rest ih => exact ih now inscribes
  | write library rest ih => exact ih inscribes
  | call request rest ih =>
    exact ⟨inscribes.1, fun reply later => ih reply (inscribes.2 reply later)⟩
  | mark milestone rest ih => exact ih inscribes

theorem Inscribed.bind {routine : Routine α} {next : α → Routine β}
    (first : routine.Inscribed operation) (second : ∀ value, (next value).Inscribed operation) :
    (routine >>= next).Inscribed operation :=
  fun got now => (first got now).bind fun value got later _ => second value got later

theorem inscribed_done (outcome : Except Raised α) : (Routine.done outcome).Inscribed operation :=
  fun _ _ _ _ => trivial

theorem Inscribed.map {routine : Routine α} {shown : α → β}
    (inscribed : routine.Inscribed operation) :
    (routine >>= fun value => pure (shown value)).Inscribed operation :=
  inscribed.bind fun value => inscribed_done (.ok (shown value))

theorem inscribed_edit (change : Edit α) : (edit change).Inscribed operation :=
  fun _ _ _ _ => trivial

theorem inscribed_library {next : Library → Routine α}
    (each : ∀ library, (next library).Inscribed operation) :
    (library >>= next).Inscribed operation :=
  fun got now => each now got now

theorem inscribed_forM {items : List β} {body : β → Routine Unit}
    (each : ∀ item, (body item).Inscribed operation) : (items.forM body).Inscribed operation := by
  induction items with
  | nil => exact inscribed_done _
  | cons item rest ih => exact (each item).bind fun _ => ih

/-- What the edit has rendered is there when the next record is written. -/
theorem inscribes_edit {change : Edit α} {next : α → Routine β}
    {post : β → (Value → Prop) → Prop}
    (rest : ∀ value after, change.apply now = (.ok value, after) →
      Inscribes operation (next value) got after post) :
    Inscribes operation (edit change >>= next) got now post := by
  change Inscribes operation (Routine.bind (.done (change.apply now).1) next) got
    (change.apply now).2 post
  cases applied : change.apply now with
  | mk outcome after =>
    cases outcome with
    | ok value => exact rest value after applied
    | error raised => exact nofun

theorem inscribes_library {next : Library → Routine α} {post : α → (Value → Prop) → Prop}
    (rest : Inscribes operation (next now) got now post) :
    Inscribes operation (library >>= next) got now post :=
  rest

/-- A call that writes no record; the operation gets what it returns. -/
theorem inscribes_ask {request : Call} (other : ¬request.IsRecord) :
    Inscribes operation (ask request) got now fun value got => got value := by
  have legible : request.Legible operation got now.addresses := by
    cases request with
    | write stream record => exact absurd trivial other
    | _ => exact trivial
  refine ⟨legible, fun reply later => ?_⟩
  cases reply with
  | returned value =>
    rintro _ ⟨⟩
    exact Or.inr ⟨other, rfl⟩
  | thrown value => exact nofun

theorem inscribed_ask {request : Call} (other : ¬request.IsRecord) :
    (ask request).Inscribed operation :=
  fun _ _ => (inscribes_ask other).mono fun _ _ _ => trivial

theorem inscribed_function (function : FunctionId) (receiver : Option Receiver)
    (arguments : List Value) :
    (ask (.function function receiver arguments)).Inscribed operation :=
  inscribed_ask not_false

theorem inscribed_quick (functions : QuickId) (function : QuickFunction)
    (arguments : List Value) : (ask (.quick functions function arguments)).Inscribed operation :=
  inscribed_ask not_false

/-- What the operation had got before the record was written it still has. -/
theorem inscribes_writeRecord {record : String}
    (legible : Record.Legible operation got now.addresses record) :
    Inscribes operation (discard (writeRecord record)) got now fun _ after =>
      ∀ value, got value → after value := by
  refine ⟨legible, fun reply later => ?_⟩
  cases reply with
  | returned _ => exact fun _ _ _ has => Or.inl has
  | thrown _ => exact nofun

end Routine

/-! ### Calls of a reader's functions -/

section Calls

variable {operation : Operation} {arguments : List Value}

/-- What a function of a table returns is something that the operation has got. -/
theorem inscribes_invoke (passes : operation.Passes arguments) (function : TableFunction)
    (receiver : Option Receiver) (got : Value → Prop) (now : Library) :
    Inscribes operation (function.invoke receiver arguments) got now
      fun value got => got value := by
  induction function generalizing receiver got now with
  | client id => exact inscribes_ask not_false
  | forward how target ih =>
    apply inscribes_edit
    intro texts announced rendered
    change (Edit.renderAll (how.shownArguments arguments)).apply now = _ at rendered
    rw [apply_renderAll_eq, Quick.apply_renderParts_eq, List.map_map] at rendered
    cases rendered
    have held := RecordPart.holds_foldl ((how.shownArguments arguments).map .rendered)
      now.addresses
    have legible : Record.Legible operation got _ _ := .call how passes fun value member =>
      held value (List.mem_map_of_mem member)
    apply (inscribes_writeRecord legible).bind
    intro _ written later _
    apply (ih _ written later).bind
    intro result called returned has
    split
    · apply inscribes_edit
      rintro _ _ ⟨⟩
      have legible : Record.Legible operation called _ _ :=
        .result how has (returned.addresses.holds_enroll result)
      rw [AddressBook.render_enroll, ← Record.render_snd] at legible
      apply (inscribes_writeRecord legible).bind
      rintro _ _ _ kept _ ⟨⟩
      exact kept result has
    · rintro _ ⟨⟩
      exact has

theorem inscribed_invoke (passes : operation.Passes arguments) (function : TableFunction)
    (receiver : Option Receiver) : (function.invoke receiver arguments).Inscribed operation :=
  fun got now => (inscribes_invoke passes function receiver got now).mono fun _ _ _ => trivial

theorem inscribed_callPresent (passes : operation.Passes arguments) (file : ObjectFileId)
    (slot : Slot) : (SymbolFile.callPresent file slot arguments).Inscribed operation := by
  apply (inscribed_edit (SymbolFile.activeTable file)).bind
  intro table
  apply inscribed_library
  intro library
  split
  · exact inscribed_done _
  · exact (inscribed_invoke passes _ _).map

theorem inscribed_callMethod (source : TableSource) (method : Option Slot)
    (arguments : List Value) (detached : Bool) :
    (Operation.invoke source method arguments detached).Inscribed
      (.callMethod source method arguments detached) := by
  apply inscribed_library
  intro library
  split
  · exact inscribed_done _
  · have passes : Operation.Passes (.callMethod source method arguments detached) arguments := rfl
    exact (inscribed_invoke passes _ _).map

theorem inscribed_probes (file : ObjectFileId) :
    (SymbolFile.probes file).Inscribed (.probes file) := by
  apply (inscribed_edit (SymbolFile.activeTable file)).bind
  intro table
  apply inscribed_library
  intro library
  split
  · exact inscribed_done _
  · have passes : Operation.Passes (.probes file) [.objectFile file] := rfl
    exact (inscribed_invoke passes _ _).map

theorem inscribed_relocate (file : ObjectFileId) (sectionInfo buffer : Value) :
    (SymbolFile.relocate file sectionInfo buffer).Inscribed
      (.relocate file sectionInfo buffer) := by
  apply (inscribed_edit (SymbolFile.activeTable file)).bind
  intro table
  apply inscribed_library
  intro library
  split
  · exact inscribed_done _
  · have passes : Operation.Passes (.relocate file sectionInfo buffer)
        [.objectFile file, sectionInfo, buffer] := rfl
    exact inscribed_invoke passes _ _

theorem inscribed_setTable (file : ObjectFileId) (table : TableRef) :
    (SymbolFile.setTable file table).Inscribed operation :=
  (inscribed_edit (Logging.setTable file table)).bind fun _ _ _ _ _ => trivial

theorem inscribed_addSymbolFile (space : SpaceId) (name : String) (quick : Option QuickId)
    (table : TableRef) (flags : Double) :
    (SymbolFile.add space name quick table flags).Inscribed
      (.addSymbolFile space name quick table flags) := by
  apply (inscribed_edit (ProgramSpace.addObjectFile space name quick)).bind
  intro file
  have passes : Operation.Passes (.addSymbolFile space name quick table flags)
      [.objectFile file] := ⟨file, Or.inl rfl⟩
  have passesFlags : Operation.Passes (.addSymbolFile space name quick table flags)
      [.objectFile file, .number flags] := ⟨file, Or.inr rfl⟩
  apply Inscribed.map
  apply (inscribed_setTable file table).bind
  intro _
  apply (inscribed_callPresent passes file _).bind
  intro _
  apply (inscribed_callPresent passes file _).bind
  intro _
  split
  · exact inscribed_done _
  · apply (inscribed_callPresent passesFlags file _).bind
    intro _
    apply (inscribed_edit (Edit.setPartialSymbolsRead file true)).bind
    intro _
    exact inscribed_callPresent passes file _

end Calls

/-! ### Quick functions -/

section QuickFunctions

variable {operation : Operation}

theorem inscribes_quickAsk (functions : QuickId) (function : QuickFunction) (file : ObjectFileId)
    (arguments : List Value) (got : Value → Prop) (now : Library) :
    Inscribes operation (Quick.ask functions function file arguments) got now
      fun value got => got value :=
  inscribes_ask not_false

theorem inscribes_recordCall (debug : Bool) (host : String) {request : QuickRequest Value}
    {texts : List String} {got : Value → Prop} {now : Library}
    (legible : Record.Legible operation got now.addresses
      (Record.call TableLabel.quick.name request.function.name host texts)) :
    Inscribes operation (Quick.recordCall debug host request texts) got now fun _ _ => True := by
  unfold Quick.recordCall
  split
  · exact (inscribes_writeRecord legible).mono fun _ _ _ => trivial
  · exact fun _ _ => trivial

theorem inscribes_consult (functions : Option QuickId) (file : ObjectFileId)
    (request : QuickRequest Value) (got : Value → Prop) (now : Library) :
    Inscribes operation (Quick.consult functions file request) got now
      fun value got => got value ∨ value = request.fallback := by
  cases functions with
  | none =>
    rintro _ ⟨⟩
    exact Or.inr rfl
  | some functions => exact (inscribes_quickAsk _ _ _ _ got now).mono fun _ _ => Or.inl

/-- What the result of an accessor is shown by. -/
theorem legible_renderResult {file : ObjectFileId} {request : QuickRequest Value} {result : Value}
    {got : Value → Prop} {now after : Library} {text : String}
    (same : operation = .access file request) (returned : got result ∨ result = request.fallback)
    (rendered : (Quick.renderResult request.resultKind result).apply now =
      (.ok (some text), after)) :
    Record.Legible operation got after.addresses
      (Record.result TableLabel.quick.name request.function.name text) := by
  cases kind : request.resultKind with
  | unrecorded =>
    rw [kind] at rendered
    cases rendered
  | value =>
    rw [kind] at rendered
    cases rendered
    have legible := Record.Legible.found same returned (now.addresses.holds_enroll result)
    rw [AddressBook.render_enroll, ← Record.render_snd] at legible
    exact legible
  | symtab =>
    rw [request.resultKind_eq] at kind
    exact .named same (Or.inl kind) text
  | compunit =>
    rw [request.resultKind_eq] at kind
    exact .named same (Or.inr kind) text

theorem inscribes_recordResult {file : ObjectFileId} {request : QuickRequest Value}
    {result : Value} {got : Value → Prop} (same : operation = .access file request)
    (debug : Bool) (returned : got result ∨ result = request.fallback) (now : Library) :
    Inscribes operation (Quick.recordResult debug request result) got now fun _ _ => True := by
  unfold Quick.recordResult
  split
  · apply inscribes_edit
    intro text after rendered
    cases text with
    | none => exact fun _ _ => trivial
    | some text =>
      have legible := legible_renderResult same returned rendered
      exact (inscribes_writeRecord legible).mono fun _ _ _ => trivial
  · exact fun _ _ => trivial

theorem inscribed_access (file : ObjectFileId) (request : QuickRequest Value) :
    (Quick.access file request).Inscribed (.access file request) := by
  intro got now
  apply inscribes_edit
  intro texts before rendered
  change (Quick.renderParts request.recorded).apply now = _ at rendered
  rw [Quick.apply_renderParts_eq] at rendered
  cases rendered
  have legible : ∀ host, Record.Legible (.access file request) got
      (request.recorded.foldl RecordPart.enroll now.addresses)
      (Record.call TableLabel.quick.name request.function.name host _) := fun host =>
    .lookup rfl host (RecordPart.holds_foldl request.recorded now.addresses)
  apply inscribes_library
  apply (inscribes_recordCall _ _ (legible _)).bind
  intro _ got later _
  apply (inscribes_consult _ file request got later).bind
  intro result got after returned
  apply inscribes_library
  apply (inscribes_recordResult rfl _ returned after).bind
  exact fun _ _ _ _ _ _ => trivial

theorem inscribes_haveSymbols (functions : Option QuickId) (file : ObjectFileId)
    (got : Value → Prop) (now : Library) :
    Inscribes operation (Quick.haveSymbols functions file) got now fun answer got =>
      got answer ∨ ∃ truth, answer = .boolean truth := by
  cases functions with
  | none =>
    rintro _ ⟨⟩
    exact Or.inr ⟨false, rfl⟩
  | some functions =>
    have couldRead : (Quick.couldRead functions file).Inscribed operation := by
      apply inscribed_library
      intro library
      dsimp only
      split
      · exact (inscribed_quick functions _ _).map
      · exact inscribed_done _
    apply (couldRead got now).bind
    intro lazily got later _
    split
    · rintro _ ⟨⟩
      exact Or.inr ⟨true, rfl⟩
    · exact (inscribes_quickAsk _ _ _ _ got later).mono fun _ _ => Or.inl

theorem inscribes_recordAnswer {file : ObjectFileId} {answer : Value} {got : Value → Prop}
    (debug : Bool) (host : String) (returned : got answer ∨ ∃ truth, answer = .boolean truth)
    (now : Library) :
    Inscribes (.hasPartialSymbols file) (Quick.recordAnswer debug host answer) got now
      fun _ _ => True := by
  unfold Quick.recordAnswer
  split
  · apply inscribes_edit
    rintro _ _ ⟨⟩
    have legible : Record.Legible (.hasPartialSymbols file) got _ _ :=
      .answer rfl host returned (now.addresses.holds_enroll answer)
    rw [AddressBook.render_enroll, ← Record.render_snd] at legible
    exact (inscribes_writeRecord legible).mono fun _ _ _ => trivial
  · exact fun _ _ => trivial

theorem inscribed_hasPartialSymbols (file : ObjectFileId) :
    (Quick.hasPartialSymbols file).Inscribed (.hasPartialSymbols file) := by
  intro got now
  apply inscribes_library
  apply (inscribes_haveSymbols _ file got now).bind
  intro answer got later returned
  apply inscribes_library
  apply (inscribes_recordAnswer _ _ returned later).bind
  exact fun _ _ _ _ _ _ => trivial

theorem inscribed_symbolLanguage (file : ObjectFileId) (name : String) (domain : Domain) :
    (Quick.symbolLanguage file name domain).Inscribed operation := by
  apply inscribed_library
  intro library
  split
  · exact inscribed_done _
  · apply (inscribed_quick _ _ _).bind
    intro answer
    apply inscribed_library
    intro after
    split <;> exact inscribed_done _

end QuickFunctions

/-! ### Removals -/

section Removals

variable {operation : Operation}

theorem inscribed_post (event : EventId) (data : Value) :
    (Event.post event data).Inscribed operation := by
  apply inscribed_library
  intro library
  apply inscribed_forM
  intro listener
  cases listener with
  | release =>
    simp only [Event.notify]
    split
    · exact inscribed_edit _
    · exact inscribed_done _
  | client function => exact (inscribed_function function _ _).map

theorem inscribed_removeObjectFile (space : SpaceId) (file : ObjectFileId) :
    (ProgramSpace.removeObjectFile space file).Inscribed operation := by
  have posts : (Event.post destroyedEvent (.objectFile file) >>= fun _ =>
      Routine.edit (Edit.detach file)).Inscribed operation :=
    (inscribed_post _ _).bind fun _ => inscribed_edit _
  exact (inscribed_edit _).bind fun _ got now => posts got now

theorem inscribed_dispose (space : SpaceId) :
    (ProgramSpace.dispose space).Inscribed operation := by
  have removes : ∀ count, (ProgramSpace.removeAll space count).Inscribed operation := by
    intro count
    induction count with
    | zero => exact inscribed_done _
    | succ count ih =>
      apply inscribed_library
      intro library
      split
      · exact inscribed_done _
      · exact (inscribed_removeObjectFile space _).bind fun _ => ih
  apply inscribed_library
  intro library
  split
  · exact inscribed_done _
  · apply (inscribed_edit (ProgramSpace.markDisposed space)).bind
    intro _
    exact (removes _).bind fun _ => inscribed_edit _

end Removals

/-! ### All operations -/

/-- Whether the operation writes a text of a client. -/
def Operation.Dictates : Operation → Prop
  | .writeRecord _ => True
  | _ => False

theorem Operation.inscribed {operation : Operation} (own : ¬operation.Dictates) :
    operation.routine.Inscribed operation := by
  cases operation with
  | writeRecord text => exact absurd trivial own
  | removeObjectFile space file => exact (inscribed_removeObjectFile space file).map
  | dispose space => exact (inscribed_dispose space).map
  | presentNames source =>
    apply inscribed_library
    intro library
    split <;> exact inscribed_done _
  | callMethod source method arguments detached =>
    exact inscribed_callMethod source method arguments detached
  | setTable file table => exact (inscribed_setTable file table).map
  | addSymbolFile space name quick table flags =>
    exact (inscribed_addSymbolFile space name quick table flags).map
  | finishSymbolFile space file =>
    have passes : Operation.Passes (.finishSymbolFile space file) [.objectFile file] := rfl
    have finishes : (SymbolFile.finish space file).Inscribed (.finishSymbolFile space file) :=
      (inscribed_callPresent passes file _).bind fun _ => inscribed_removeObjectFile space file
    exact finishes.map
  | probes file => exact (inscribed_probes file).map
  | relocate file sectionInfo buffer => exact (inscribed_relocate file sectionInfo buffer).map
  | hasPartialSymbols file => exact (inscribed_hasPartialSymbols file).map
  | access file request => exact (inscribed_access file request).map
  | symbolLanguage file name domain => exact (inscribed_symbolLanguage file name domain).map
  | post event data => exact (inscribed_post event data).map
  | _ => exact (inscribed_edit _).map

/-! ### The records of a run -/

theorem Edited.known_grows {library after : Library} (edited : Edited library after) :
    library.addresses.known <+: after.addresses.known := by
  cases edited with
  | rendered value =>
    change library.addresses.known <+: (Record.render value library.addresses).2.known
    rw [Record.render_snd]
    exact library.addresses.known_prefix_enroll value
  | _ => exact List.prefix_rfl

theorem Rewritten.known_grows {settles : Prop} {library after : Library}
    (rewritten : Rewritten settles library after) :
    library.addresses.known <+: after.addresses.known := by
  induction rewritten with
  | refl => exact List.prefix_rfl
  | tail _ step ih =>
    rcases step with edited | ⟨_, settling⟩
    · exact ih.trans edited.known_grows
    · cases settling <;> exact ih

namespace World

/-- A reader's function or a listener has returned the value to the operation. -/
def Got (world : World) (operation : Operation) (value : Value) : Prop :=
  ∃ request : Call, ¬request.IsRecord ∧
    .answered operation request (.returned value) ∈ world.history

/-- The records that operations have written, other than texts of clients, are legible
with the book there is now. -/
def Legible (world : World) : Prop :=
  ∀ operation stream record, .called operation (.write stream record) ∈ world.history →
    ¬operation.Dictates →
    Record.Legible operation (world.Got operation) world.library.addresses record

/-- Whatever the reply, the operation that waits writes legible records only, unless it
writes a text of a client. -/
def Inscribes (world : World) (frame : Frame) : Prop :=
  ∃ got, (∀ value, got value → world.Got frame.operation value) ∧
    (¬frame.operation.Dictates → ∀ reply later,
      Routine.Inscribes frame.operation (frame.next reply) (frame.request.Got got reply) later
        fun _ _ => True)

variable {world after : World}

theorem Got.later {operation : Operation} {value : Value} (has : world.Got operation value)
    (history : world.history <+: after.history) : after.Got operation value := by
  obtain ⟨request, asked, answered⟩ := has
  exact ⟨request, asked, history.subset answered⟩

theorem Inscribes.later {frame : Frame} (inscribes : world.Inscribes frame)
    (history : world.history <+: after.history) : after.Inscribes frame := by
  obtain ⟨got, has, onward⟩ := inscribes
  exact ⟨got, fun value returned => (has value returned).later history, onward⟩

theorem Legible.later (legible : world.Legible) {library : Library}
    (grows : world.library.addresses.known <+: library.addresses.known) :
    World.Legible { world with library := library } :=
  fun operation stream record written own =>
    (legible operation stream record written own).mono (fun _ has => has) grows

theorem Legible.note (legible : world.Legible) {happening : Happening}
    (new : ∀ operation stream record, happening = .called operation (.write stream record) →
      ¬operation.Dictates →
      Record.Legible operation (world.Got operation) world.library.addresses record) :
    (world.note happening).Legible := by
  intro operation stream record written own
  have kept : ∀ value, world.Got operation value → (world.note happening).Got operation value :=
    fun value has => has.later (List.prefix_append _ _)
  rcases List.mem_append.mp written with before | last
  · exact (legible operation stream record before own).mono kept List.prefix_rfl
  · have called := (List.mem_singleton.mp last).symm
    exact (new operation stream record called own).mono kept List.prefix_rfl

/-- A happening that is no call leaves the records as they are. -/
theorem Legible.beside (legible : world.Legible) {happening : Happening}
    (other : ∀ operation request, happening ≠ .called operation request) :
    (world.note happening).Legible :=
  legible.note fun operation _ _ called => absurd called (other operation _)

end World

section Runs

variable {operation : Operation} {world : World} {moment : Moment} {routine : Routine Result}
  {pending : List Frame} {got : Value → Prop}

/-- One stretch of an operation, up to its next call or its end. -/
theorem Routine.Inscribes.proceed
    (inscribes : ¬operation.Dictates →
      Inscribes operation routine got world.library fun _ _ => True)
    (has : ∀ value, got value → world.Got operation value)
    (writes : routine.Writes True world.library) (legible : world.Legible)
    (waiting : ∀ frame ∈ pending, world.Inscribes frame) :
    (Moment.proceed operation pending routine world).toWorld.Legible ∧
    ∀ frame ∈ (Moment.proceed operation pending routine world).pending,
      (Moment.proceed operation pending routine world).toWorld.Inscribes frame := by
  induction routine generalizing world with
  | done outcome =>
    exact ⟨legible.beside (by rintro _ _ ⟨⟩),
      fun frame member => (waiting frame member).later (List.prefix_append _ _)⟩
  | read next ih => exact ih world.library inscribes has writes legible waiting
  | write library next ih =>
    exact ih inscribes has writes.2 (legible.later writes.1.known_grows) waiting
  | call request next ih =>
    have history : world.history <+: (world.note (.called operation request)).history :=
      List.prefix_append _ _
    constructor
    · apply legible.note
      rintro _ stream record ⟨⟩ own
      exact Record.Legible.mono (inscribes own).1 has List.prefix_rfl
    · intro frame member
      rcases List.mem_cons.mp member with rfl | earlier
      · exact ⟨got, fun value returned => (has value returned).later history,
          fun own => (inscribes own).2⟩
      · exact (waiting frame earlier).later history
  | mark milestone next ih =>
    have history : world.history <+: (world.note (.reached milestone)).history :=
      List.prefix_append _ _
    exact ih inscribes (fun value returned => (has value returned).later history) writes
      (legible.beside (by rintro _ _ ⟨⟩)) fun frame member => (waiting frame member).later history

/-- At every point of every run the records written until then are legible, and the
operations that wait write no others. -/
theorem Reachable.inscribed {rules : Rules} (reachable : Reachable rules moment) :
    moment.toWorld.Legible ∧ ∀ frame ∈ moment.pending, moment.toWorld.Inscribes frame := by
  induction reachable with
  | initial =>
    exact ⟨fun _ _ _ written => (List.not_mem_nil written).elim,
      fun _ member => (List.not_mem_nil member).elim⟩
  | @start moment operation before _ _ ih =>
    have history : moment.history <+: (moment.note (.started operation)).history :=
      List.prefix_append _ _
    have inscribes : ¬operation.Dictates → Inscribes operation operation.routine
        (fun _ => False) (moment.note (.started operation)).library fun _ _ => True :=
      fun own => Operation.inscribed own _ _
    have writes : operation.routine.Writes True (moment.note (.started operation)).library :=
      (operation.rewrites moment.library).weaken fun _ => trivial
    exact Inscribes.proceed inscribes (fun _ => False.elim) writes
      (ih.1.beside (by rintro _ _ ⟨⟩)) fun frame member => (ih.2 frame member).later history
  | @resume moment frame rest reply before answers _ ih =>
    have first : frame ∈ moment.pending := by
      rw [answers]
      exact List.mem_cons_self
    have history : moment.history <+:
        (moment.note (.answered frame.operation frame.request reply)).history :=
      List.prefix_append _ _
    have writes : (frame.next reply).Writes True
        (moment.note (.answered frame.operation frame.request reply)).library :=
      before.rewrites frame first reply moment.library
    have waiting : ∀ other ∈ rest,
        (moment.note (.answered frame.operation frame.request reply)).Inscribes other := by
      intro other member
      have earlier : other ∈ moment.pending := by
        rw [answers]
        exact List.mem_cons_of_mem _ member
      exact (ih.2 other earlier).later history
    obtain ⟨got, has, onward⟩ := ih.2 frame first
    -- What the reply has brought stands in the history now.
    have hasNow : ∀ value, frame.request.Got got reply value →
        (moment.note (.answered frame.operation frame.request reply)).Got
          frame.operation value := by
      rintro value (earlier | ⟨asked, rfl⟩)
      · exact (has value earlier).later history
      · exact ⟨frame.request, asked, List.mem_append_right _ (List.mem_singleton.mpr rfl)⟩
    exact Inscribes.proceed (fun own => onward own reply _) hasNow writes
      (ih.1.beside (by rintro _ _ ⟨⟩)) waiting

end Runs

end ReaderTrace
