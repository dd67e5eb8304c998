import ReaderTrace.Quick.Function
import ReaderTrace.Value

/-!
The traced accessors of the quick functions, as data.

Each accessor is a request: which quick function it calls and with which
arguments, what its call record shows, what it answers for an object file
without quick functions, and how its result is recorded. The type of the
parameters that a client supplies itself is left open; an optional one that is
left out is absent.
-/

namespace ReaderTrace

inductive QuickRequest (ν : Type)
  | findLastSource
  | forgetCachedSource
  | lookupSymbol (kind : BlockKind) (name : String) (domain : Domain)
  | findByAddress (address : ν)
  | expandAll
  | expandForFunction (name : String)
  | expandWithFullName (fullName : String)
  | printStatistics (printCache : Bool)
  | dump
  | mapMatchingFilename (name : String) (realPath : Option String) (callback : ν)
  | mapMatchingSymbols (name : String) (domain : Domain) (isGlobal : Bool)
      (callback orderedCompare : ν)
  | expandMatching (fileMatcher : ν) (lookupName : Option String)
      (symbolMatcher expansionNotify : ν) (searchDomain : SearchDomain)
  | findByCounter (minimalSymbol counter sectionInfo : ν) (warnIfRead : Bool)
  | mapFilenames (callback : ν) (needFullName : Bool)

/-- A part of a call record: text that stands as it is, or a value that is
rendered. -/
inductive RecordPart
  | bare (text : String)
  | rendered (value : Value)
deriving DecidableEq

/-- How a result is recorded. -/
inductive ResultKind
  | unrecorded
  | symtab
  | compunit
  | value
deriving DecidableEq

namespace QuickRequest

variable {ν μ : Type}

/-- Applies an effectful function to the open parameters, from left to right. -/
def mapM {m : Type → Type} [Monad m] (f : ν → m μ) : QuickRequest ν → m (QuickRequest μ)
  | .findLastSource => pure .findLastSource
  | .forgetCachedSource => pure .forgetCachedSource
  | .lookupSymbol kind name domain => pure (.lookupSymbol kind name domain)
  | .findByAddress address => do
      let address ← f address
      pure (.findByAddress address)
  | .expandAll => pure .expandAll
  | .expandForFunction name => pure (.expandForFunction name)
  | .expandWithFullName fullName => pure (.expandWithFullName fullName)
  | .printStatistics printCache => pure (.printStatistics printCache)
  | .dump => pure .dump
  | .mapMatchingFilename name realPath callback => do
      let callback ← f callback
      pure (.mapMatchingFilename name realPath callback)
  | .mapMatchingSymbols name domain isGlobal callback orderedCompare => do
      let callback ← f callback
      let orderedCompare ← f orderedCompare
      pure (.mapMatchingSymbols name domain isGlobal callback orderedCompare)
  | .expandMatching fileMatcher lookupName symbolMatcher expansionNotify searchDomain => do
      let fileMatcher ← f fileMatcher
      let symbolMatcher ← f symbolMatcher
      let expansionNotify ← f expansionNotify
      pure (.expandMatching fileMatcher lookupName symbolMatcher expansionNotify searchDomain)
  | .findByCounter minimalSymbol counter sectionInfo warnIfRead => do
      let minimalSymbol ← f minimalSymbol
      let counter ← f counter
      let sectionInfo ← f sectionInfo
      pure (.findByCounter minimalSymbol counter sectionInfo warnIfRead)
  | .mapFilenames callback needFullName => do
      let callback ← f callback
      pure (.mapFilenames callback needFullName)

/-- The quick function that the accessor calls; its name is also the name in
the records. -/
def function : QuickRequest ν → QuickFunction
  | .findLastSource => .findLastSourceSymtab
  | .forgetCachedSource => .forgetCachedSourceInfo
  | .lookupSymbol .. => .lookupSymbol
  | .findByAddress .. => .findCompunitSymtabByAddress
  | .expandAll => .expandAllSymtabs
  | .expandForFunction .. => .expandSymtabsForFunction
  | .expandWithFullName .. => .expandSymtabsWithFullname
  | .printStatistics .. => .printStats
  | .dump => .dump
  | .mapMatchingFilename .. => .mapSymtabsMatchingFilename
  | .mapMatchingSymbols .. => .mapMatchingSymbols
  | .expandMatching .. => .expandSymtabsMatching
  | .findByCounter .. => .findPcSectCompunitSymtab
  | .mapFilenames .. => .mapSymbolFilenames

def optionalText (text : Option String) : Value :=
  match text with
  | some text => .text text
  | none => .null

def arguments : QuickRequest Value → List Value
  | .findLastSource => []
  | .forgetCachedSource => []
  | .lookupSymbol kind name domain => [.text kind.name, .text name, .text domain.name]
  | .findByAddress address => [address]
  | .expandAll => []
  | .expandForFunction name => [.text name]
  | .expandWithFullName fullName => [.text fullName]
  | .printStatistics printCache => [.boolean printCache]
  | .dump => []
  | .mapMatchingFilename name realPath callback =>
      [.text name, optionalText realPath, callback]
  | .mapMatchingSymbols name domain isGlobal callback orderedCompare =>
      [.text name, .text domain.name, .boolean isGlobal, callback, orderedCompare.orNull]
  | .expandMatching fileMatcher lookupName symbolMatcher expansionNotify searchDomain =>
      [fileMatcher.orNull, optionalText lookupName, symbolMatcher.orNull,
        expansionNotify.orNull, .text searchDomain.name]
  | .findByCounter minimalSymbol counter sectionInfo warnIfRead =>
      [minimalSymbol, counter, sectionInfo, .boolean warnIfRead]
  | .mapFilenames callback needFullName => [callback, .boolean needFullName]

/-- What the call record shows after the object file. The lookup names of the
two matching walks are left out. -/
def recorded : QuickRequest Value → List RecordPart
  | .findLastSource => []
  | .forgetCachedSource => []
  | .lookupSymbol kind name domain =>
      [.bare (Nat.repr kind.position), .rendered (.text name), .bare domain.name]
  | .findByAddress address => [.rendered address]
  | .expandAll => []
  | .expandForFunction name => [.rendered (.text name)]
  | .expandWithFullName fullName => [.rendered (.text fullName)]
  | .printStatistics printCache => [.rendered (.boolean printCache)]
  | .dump => []
  | .mapMatchingFilename name realPath callback =>
      [.rendered (.text name), .rendered (optionalText realPath), .rendered callback]
  | .mapMatchingSymbols _ domain isGlobal _ orderedCompare =>
      [.bare domain.name, .rendered (.boolean isGlobal), .rendered orderedCompare.orNull]
  | .expandMatching fileMatcher _ symbolMatcher expansionNotify searchDomain =>
      [.rendered fileMatcher.orNull, .rendered symbolMatcher.orNull,
        .rendered expansionNotify.orNull, .bare searchDomain.name]
  | .findByCounter minimalSymbol counter sectionInfo warnIfRead =>
      [.rendered minimalSymbol, .rendered counter, .rendered sectionInfo,
        .rendered (.boolean warnIfRead)]
  | .mapFilenames callback needFullName =>
      [.rendered callback, .rendered (.boolean needFullName)]

/-- The answer for an object file without quick functions. -/
def fallback : QuickRequest ν → Value
  | .findLastSource => .null
  | .lookupSymbol .. => .null
  | .findByAddress .. => .null
  | .mapMatchingFilename .. => .boolean false
  | .findByCounter .. => .null
  | _ => .absent

def resultKind : QuickRequest ν → ResultKind
  | .findLastSource => .symtab
  | .lookupSymbol .. => .compunit
  | .findByAddress .. => .compunit
  | .mapMatchingFilename .. => .value
  | .findByCounter .. => .compunit
  | _ => .unrecorded

/-- What the accessor hands on of a result: nothing when it has no result. -/
def answer (request : QuickRequest ν) (result : Value) : Value :=
  match request.resultKind with
  | .unrecorded => .absent
  | _ => result

end QuickRequest

end ReaderTrace
