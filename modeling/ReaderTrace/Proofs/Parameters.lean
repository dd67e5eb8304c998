import ReaderTrace.Proofs.Rendering
import ReaderTrace.Quick.Access

/-!
The parameters of the quick functions by name.

The quick functions take their parameters by position, and the records show them by
position too, without some of them. Here each quick function has a list of named
parameters for its call and one for its record, and an accessor has a value for each
name. Both lists are then read off the names, so that no two of them can be exchanged.
-/

namespace ReaderTrace

/-! ### Named parameters -/

inductive Parameter
  | kind
  | name
  | domain
  | address
  | fullName
  | printCache
  | realPath
  | callback
  | isGlobal
  | orderedCompare
  | fileMatcher
  | lookupName
  | symbolMatcher
  | expansionNotify
  | searchDomain
  | minimalSymbol
  | counter
  | sectionInfo
  | warnIfRead
  | needFullName
deriving DecidableEq

namespace QuickFunction

/-- The parameters after the object file, in their positions. -/
def signature : QuickFunction → List Parameter
  | .lookupSymbol => [.kind, .name, .domain]
  | .findCompunitSymtabByAddress => [.address]
  | .mapSymtabsMatchingFilename => [.name, .realPath, .callback]
  | .mapMatchingSymbols => [.name, .domain, .isGlobal, .callback, .orderedCompare]
  | .expandSymtabsMatching =>
      [.fileMatcher, .lookupName, .symbolMatcher, .expansionNotify, .searchDomain]
  | .findPcSectCompunitSymtab => [.minimalSymbol, .counter, .sectionInfo, .warnIfRead]
  | .mapSymbolFilenames => [.callback, .needFullName]
  | .lookupGlobalSymbolLanguage => [.name, .domain]
  | .expandSymtabsForFunction => [.name]
  | .expandSymtabsWithFullname => [.fullName]
  | .printStats => [.printCache]
  | _ => []

/-- The parameters that a call record shows. The two matching walks do not show the
name that is looked up. -/
def shown : QuickFunction → List Parameter
  | .mapMatchingSymbols => [.domain, .isGlobal, .orderedCompare]
  | .expandSymtabsMatching => [.fileMatcher, .symbolMatcher, .expansionNotify, .searchDomain]
  | function => function.signature

/-- The kind of the results of the traced accessors, five of which have one. -/
def yields : QuickFunction → ResultKind
  | .findLastSourceSymtab => .symtab
  | .lookupSymbol => .compunit
  | .findCompunitSymtabByAddress => .compunit
  | .findPcSectCompunitSymtab => .compunit
  | .mapSymtabsMatchingFilename => .value
  | _ => .unrecorded

end QuickFunction

namespace ResultKind

/-- The result where there are no quick functions: nothing is found, and nothing
matches. -/
def fallback : ResultKind → Value
  | .symtab => .null
  | .compunit => .null
  | .value => .boolean false
  | .unrecorded => .absent

/-- The results that a quick function of the kind can have, where the objects of
clients hold `contents`. -/
inductive Admits (contents : ObjectId → Content) : ResultKind → Value → Prop
  | nothing (result : Value) : Admits contents .unrecorded result
  | noSymtab : Admits contents .symtab .null
  | symtab {id : ObjectId} {filename : String} (kept : contents id = .symtab filename) :
      Admits contents .symtab (.reference (.object id))
  | noCompunit : Admits contents .compunit .null
  | compunit {id : ObjectId} {filename : String} (kept : contents id = .compunit filename) :
      Admits contents .compunit (.reference (.object id))
  | boolean (truth : Bool) : Admits contents .value (.boolean truth)

theorem admits_fallback (contents : ObjectId → Content) (kind : ResultKind) :
    Admits contents kind kind.fallback := by
  cases kind with
  | unrecorded => exact .nothing .absent
  | symtab => exact .noSymtab
  | compunit => exact .noCompunit
  | value => exact .boolean false

/-- What the result record shows: the file name of a symbol table or of the primary
file of a compilation unit, NULL where none was found, or the truth value. -/
def text? (contents : ObjectId → Content) : ResultKind → Value → Option String
  | .unrecorded, _ => none
  | .value, .boolean truth => some (if truth then "true" else "false")
  | .symtab, .reference (.object id) => (contents id).symtab?
  | .compunit, .reference (.object id) => (contents id).compunit?
  | _, _ => some "NULL"

end ResultKind

namespace QuickRequest

/-- The value of each parameter of an accessor. An optional one that was left out
is null. -/
def given : QuickRequest Value → Parameter → Value
  | .lookupSymbol kind _ _, .kind => .text kind.name
  | .lookupSymbol _ name _, .name => .text name
  | .lookupSymbol _ _ domain, .domain => .text domain.name
  | .findByAddress address, .address => address
  | .expandForFunction name, .name => .text name
  | .expandWithFullName fullName, .fullName => .text fullName
  | .printStatistics printCache, .printCache => .boolean printCache
  | .mapMatchingFilename name _ _, .name => .text name
  | .mapMatchingFilename _ realPath _, .realPath => realPath.elim .null .text
  | .mapMatchingFilename _ _ callback, .callback => callback
  | .mapMatchingSymbols name _ _ _ _, .name => .text name
  | .mapMatchingSymbols _ domain _ _ _, .domain => .text domain.name
  | .mapMatchingSymbols _ _ isGlobal _ _, .isGlobal => .boolean isGlobal
  | .mapMatchingSymbols _ _ _ callback _, .callback => callback
  | .mapMatchingSymbols _ _ _ _ orderedCompare, .orderedCompare => orderedCompare.orNull
  | .expandMatching fileMatcher _ _ _ _, .fileMatcher => fileMatcher.orNull
  | .expandMatching _ lookupName _ _ _, .lookupName => lookupName.elim .null .text
  | .expandMatching _ _ symbolMatcher _ _, .symbolMatcher => symbolMatcher.orNull
  | .expandMatching _ _ _ expansionNotify _, .expansionNotify => expansionNotify.orNull
  | .expandMatching _ _ _ _ searchDomain, .searchDomain => .text searchDomain.name
  | .findByCounter minimalSymbol _ _ _, .minimalSymbol => minimalSymbol
  | .findByCounter _ counter _ _, .counter => counter
  | .findByCounter _ _ sectionInfo _, .sectionInfo => sectionInfo
  | .findByCounter _ _ _ warnIfRead, .warnIfRead => .boolean warnIfRead
  | .mapFilenames callback _, .callback => callback
  | .mapFilenames _ needFullName, .needFullName => .boolean needFullName
  | _, _ => .null

variable (request : QuickRequest Value)

theorem arguments_eq : request.arguments = request.function.signature.map request.given := by
  cases request with
  | mapMatchingFilename name realPath callback => cases realPath <;> rfl
  | expandMatching fileMatcher lookupName symbolMatcher expansionNotify searchDomain =>
    cases lookupName <;> rfl
  | _ => rfl

theorem resultKind_eq : request.resultKind = request.function.yields := by
  cases request <;> rfl

theorem fallback_eq : request.fallback = request.function.yields.fallback := by
  cases request <;> rfl

/-- Only a result of the recorded kinds is handed on. -/
theorem answer_eq (result : Value) :
    request.answer result = if request.function.yields = .unrecorded then .absent else result := by
  unfold answer
  rw [request.resultKind_eq]
  cases request.function.yields <;> rfl

end QuickRequest

/-! ### The texts of a call record -/

/-- How a call record shows a parameter: a block by its index, a domain by its bare
name, and every other value as it is rendered, with the tokens of the book. -/
def Parameter.text (book : AddressBook) : Parameter → Value → String
  | .kind, .text block => if block = "global" then "0" else "1"
  | .domain, .text bare => bare
  | .searchDomain, .text bare => bare
  | _, value => (Record.render value book).1

namespace QuickRequest

/-- The book in which everything that the call record shows has its token. -/
def enrolled (request : QuickRequest Value) (book : AddressBook) : AddressBook :=
  (request.function.shown.map request.given).foldl AddressBook.enroll book

def texts (request : QuickRequest Value) (book : AddressBook) : List String :=
  request.function.shown.map fun parameter =>
    parameter.text (request.enrolled book) (request.given parameter)

end QuickRequest

namespace RecordPart

def enroll (book : AddressBook) : RecordPart → AddressBook
  | .bare _ => book
  | .rendered value => book.enroll value

def text (book : AddressBook) : RecordPart → String
  | .bare text => text
  | .rendered value => (Record.render value book).1

theorem known_prefix_foldl (parts : List RecordPart) (book : AddressBook) :
    book.known <+: (parts.foldl enroll book).known := by
  induction parts generalizing book with
  | nil => exact List.prefix_rfl
  | cons part rest ih =>
    apply List.IsPrefix.trans _ (ih (enroll book part))
    cases part with
    | bare text => exact List.prefix_rfl
    | rendered value => exact book.known_prefix_enroll value

end RecordPart

namespace Quick

/-- The parts are rendered from left to right, but their texts are those of the book
that has all their tokens. -/
theorem apply_renderParts_eq (parts : List RecordPart) (library : Library) :
    (renderParts parts).apply library =
      (.ok (parts.map (RecordPart.text (parts.foldl RecordPart.enroll library.addresses))),
        { library with addresses := parts.foldl RecordPart.enroll library.addresses }) := by
  induction parts generalizing library with
  | nil => rfl
  | cons part rest ih =>
    have grows := RecordPart.known_prefix_foldl rest (RecordPart.enroll library.addresses part)
    have first : (renderPart part).apply library =
        (.ok (RecordPart.text (rest.foldl RecordPart.enroll
            (RecordPart.enroll library.addresses part)) part),
          { library with addresses := RecordPart.enroll library.addresses part }) := by
      cases part with
      | bare text => rfl
      | rendered value =>
        change (Except.ok (Record.render value library.addresses).1,
          { library with addresses := (Record.render value library.addresses).2 }) = _
        rw [Record.render_snd, ← Record.render_fst_of_prefix grows]
        rfl
    unfold renderParts
    rw [Edit.apply_bind, first]
    change ((renderParts rest) >>= fun texts => pure (_ :: texts)).apply _ = _
    rw [Edit.apply_bind, ih]
    rfl

/-- What an accessor renders before its first call. -/
theorem apply_renderParts_recorded (request : QuickRequest Value) (library : Library) :
    (renderParts request.recorded).apply library =
      (.ok (request.texts library.addresses),
        { library with addresses := request.enrolled library.addresses }) := by
  have bookEq : ∀ book, request.recorded.foldl RecordPart.enroll book = request.enrolled book := by
    intro book
    cases request with
    | mapMatchingFilename name realPath callback => cases realPath <;> rfl
    | _ => rfl
  have textsEq : ∀ book, request.recorded.map (RecordPart.text book) =
      request.function.shown.map fun parameter =>
        parameter.text book (request.given parameter) := by
    intro book
    cases request with
    | lookupSymbol kind name domain => cases kind <;> rfl
    | mapMatchingFilename name realPath callback => cases realPath <;> rfl
    | _ => rfl
  rw [apply_renderParts_eq, bookEq, textsEq]
  rfl

/-- The result of a quick function has the text of its kind, and no token is given
out for it. -/
theorem apply_renderResult {kind : ResultKind} {result : Value} {library : Library}
    (admits : ResultKind.Admits library.contents kind result) :
    (renderResult kind result).apply library =
      (.ok (ResultKind.text? library.contents kind result), library) := by
  cases admits with
  | boolean truth => cases truth <;> rfl
  | symtab kept | compunit kept =>
    simp only [renderResult, ResultKind.text?, apply_fileName, kept]
    rfl
  | _ => rfl

end Quick

end ReaderTrace
