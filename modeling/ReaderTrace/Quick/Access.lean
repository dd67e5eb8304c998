import ReaderTrace.Invocation
import ReaderTrace.Quick.Request

/-!
Asking the quick functions of an object file.

The debug setting is read twice, before the call and after it, and decides
each time about the record written there. The parts of the call record are
rendered in any case, so a reference among them gets its address token also
while nothing is logged.
-/

namespace ReaderTrace.Quick

def renderPart : RecordPart → Edit String
  | .bare text => pure text
  | .rendered value => Edit.render value

def renderParts : List RecordPart → Edit (List String)
  | [] => pure []
  | part :: rest => do
      let text ← renderPart part
      let texts ← renderParts rest
      pure (text :: texts)

/-- Rendering succeeds and only gives out address tokens. -/
theorem apply_renderParts (parts : List RecordPart) (library : Library) :
    ∃ texts addresses, (renderParts parts).apply library =
      (.ok texts, { library with addresses := addresses }) := by
  induction parts generalizing library with
  | nil => exact ⟨[], library.addresses, rfl⟩
  | cons part rest ih =>
    have first : ∃ text addresses, (renderPart part).apply library =
        (.ok text, { library with addresses := addresses }) := by
      cases part with
      | bare text => exact ⟨text, library.addresses, rfl⟩
      | rendered value => exact ⟨_, _, rfl⟩
    obtain ⟨text, addresses, firstEq⟩ := first
    obtain ⟨texts, after, restEq⟩ := ih { library with addresses := addresses }
    refine ⟨text :: texts, after, ?_⟩
    unfold renderParts
    rw [Edit.apply_bind, firstEq]
    change ((renderParts rest) >>= fun texts => pure (text :: texts)).apply _ = _
    rw [Edit.apply_bind, restEq]
    rfl

/-- The file name that shows a symbol table. It is read when the record is
written, from the object as it is then. -/
def fileName (kept : Content → Option String) (object : ObjectId) : Edit (Option String) := do
  let library ← get
  match kept (library.contents object) with
  | some filename => pure (some filename)
  | none => Edit.fail .malformedAnswer

theorem apply_fileName (kept : Content → Option String) (object : ObjectId)
    (library : Library) :
    (fileName kept object).apply library =
      match kept (library.contents object) with
      | some filename => (.ok (some filename), library)
      | none => (.error (.fault .malformedAnswer), library) := by
  unfold fileName
  simp only [Edit.apply_bind, Edit.apply_get]
  cases kept (library.contents object) <;> rfl

/-- The text of a result; `none` for a kind that is not recorded. -/
def renderResult (kind : ResultKind) (result : Value) : Edit (Option String) :=
  match kind, result with
  | .unrecorded, _ => pure none
  | .value, value => do
      let text ← Edit.render value
      pure (some text)
  | _, .null => pure (some Record.nullPlaceholder)
  | .symtab, .reference (.object id) => fileName Content.symtab? id
  | .compunit, .reference (.object id) => fileName Content.compunit? id
  | _, _ => Edit.fail .malformedAnswer

def ask (functions : QuickId) (function : QuickFunction) (file : ObjectFileId)
    (arguments : List Value) : Routine Value :=
  Routine.ask (.quick functions function (.objectFile file :: arguments))

def recordCall (debug : Bool) (name : String) (request : QuickRequest Value)
    (texts : List String) : Routine Unit :=
  if debug then
    discard (Routine.writeRecord
      (Record.call TableLabel.quick.name request.function.name name texts))
  else
    pure ()

def consult (functions : Option QuickId) (file : ObjectFileId) (request : QuickRequest Value) :
    Routine Value :=
  match functions with
  | none => pure request.fallback
  | some functions => ask functions request.function file request.arguments

def recordResult (debug : Bool) (request : QuickRequest Value) (result : Value) :
    Routine Unit :=
  if debug then do
    let text ← renderResult request.resultKind result
    match text with
    | none => pure ()
    | some text =>
        discard (Routine.writeRecord
          (Record.result TableLabel.quick.name request.function.name text))
  else
    pure ()

def access (file : ObjectFileId) (request : QuickRequest Value) : Routine Value := do
  let texts ← renderParts request.recorded
  let before ← Routine.library
  recordCall before.debug (before.debugName file) request texts
  let result ← consult (before.quickOf? file) file request
  let after ← Routine.library
  recordResult after.debug request result
  pure (request.answer result)

/-- Whether symbols that were not read yet could be read when needed. The
reader is asked only while they were not read, and only if it answers that
question at all. -/
def couldRead (functions : QuickId) (file : ObjectFileId) : Routine Bool := do
  let library ← Routine.library
  let answers :=
    ((library.quickFunctions[functions.index]?).map QuickFunctions.answersLazyReading).getD false
  if !library.partialSymbolsRead file && answers then do
    let answer ← Routine.ask (.quick functions .canLazilyReadSymbols [])
    pure answer.isAffirmative
  else
    pure false

/-- Whether there are symbols, to be read or read already. -/
def haveSymbols (functions : Option QuickId) (file : ObjectFileId) : Routine Value :=
  match functions with
  | none => pure (.boolean false)
  | some functions => do
      let lazily ← couldRead functions file
      if lazily then pure (.boolean true)
      else ask functions .hasSymbols file []

/-- Writes the one record of the question for symbols while logging is on. -/
def recordAnswer (debug : Bool) (name : String) (answer : Value) : Routine Unit :=
  if debug then do
    let text ← Edit.render answer
    discard (Routine.writeRecord
      (Record.call TableLabel.quick.name QuickFunction.hasSymbols.name name [] ++ " = " ++ text))
  else
    pure ()

/-- Whether an object file has symbols or could have them. One record is
written, after all calls. -/
def hasPartialSymbols (file : ObjectFileId) : Routine Value := do
  let before ← Routine.library
  let answer ← haveSymbols (before.quickOf? file) file
  let after ← Routine.library
  recordAnswer after.debug (before.debugName file) answer
  pure answer

/-- The language of a global symbol. Nothing is recorded. -/
def symbolLanguage (file : ObjectFileId) (name : String) (domain : Domain) :
    Routine SymbolLanguage := do
  let library ← Routine.library
  match library.quickOf? file with
  | none => pure { language := .unknown, found := false }
  | some functions => do
      let answer ← ask functions .lookupGlobalSymbolLanguage file [.text name, .text domain.name]
      let library ← Routine.library
      match library.languageIn? answer with
      | some answer => pure answer
      | none => Routine.fail .malformedAnswer

end ReaderTrace.Quick
