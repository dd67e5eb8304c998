import ReaderTrace.Fault
import ReaderTrace.Library

/-!
What a script answers: one answer for each step, and the happenings that were
observed while the step ran.

In answers everything with an identity is named; a shadow is named by the
order in which shadows were first named.
-/

namespace ReaderTrace.Script

inductive ShownReference
  | object (name : String)
  | objectFile (name : String)
  | table (name : String)
deriving DecidableEq

abbrev Shown :=
  Datum ShownReference

/-- Why a step failed. An error object that a client threw is told apart from
other thrown values. -/
inductive Failure
  | fault (fault : Fault)
  | error (name message : String)
  | thrown (value : Shown)
deriving DecidableEq

/-- The places of a shadow and of its probe table, and whether they are frozen. -/
structure Inspection where
  table : String
  keys : List String
  frozen : Bool
  probeKeys : Option (List String)
  probesFrozen : Option Bool
deriving DecidableEq

structure ObjectFileOverview where
  objectFile : String
  name : String
  debugName : String
  partialSymbolsRead : Bool
  table : Option String
  present : Option (List String)
  installed : Bool
  data : Option (String × String)
deriving DecidableEq

structure Overview where
  debug : Bool
  sentence : String
  spaces : List (String × List String)
  objectFiles : List ObjectFileOverview
deriving DecidableEq

inductive Report
  | space (number : Nat) (name : String)
  | objectFile (name debugName : String)
  | symbolFile (objectFile : String)
  | boolean (value : Bool)
  | text (value : String)
  | table (name : Option String)
  | names (names : List String)
  | inspection (inspection : Inspection)
  | value (value : Shown)
  | noProbes
  | language (answer : SymbolLanguage)
  | overview (overview : Overview)
deriving DecidableEq

inductive Answer
  | report (report : Report)
  | done
  | absent
  | failed (failure : Failure)
  /-- What a stream returned from writing; it is handed on as it is. -/
  | written (value : Shown)
deriving DecidableEq

inductive Happening
  | record (stream : Stream) (text : String)
  | methodCalled (name : String) (receiver : Option String) (arguments : List Shown)
  | functionCalled (name : String) (arguments : List Shown)
  | destroyed (listener : String) (objectFile : String)
  | notified (listener : String) (data : Shown)
  | nested (answer : Answer)
deriving DecidableEq

end ReaderTrace.Script
