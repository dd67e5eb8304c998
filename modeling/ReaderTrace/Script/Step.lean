import ReaderTrace.Quick.Request
import ReaderTrace.Setting.Environment

/-!
Scripts: sequences of operations on the library, with clients whose behaviour
is itself a script.

A scripted function runs the steps of one behaviour each time it is called and
then returns or throws, so operations nest as deep as the script wants. The
script refers to everything by name; the values in it are literals, which are
looked up, or created, at the moment they are reached.
-/

namespace ReaderTrace.Script

/-- A place of a reader table that a script can declare. -/
inductive TablePlace
  | slot (slot : Slot)
  | probeTable
deriving DecidableEq

inductive TableChoice
  | named (table : String)
  | active (objectFile : String)
deriving DecidableEq

mutual

/-- A reference in a script: something declared where it is first mentioned,
or a thing of the library by its name. -/
inductive LiteralReference
  | declared (name : Option String) (kind : ReferenceKind)
  | objectFile (name : String)
  | table (name : String)

inductive ReferenceKind
  | object
  | symtab (filename : String)
  | compunit (filename : String)
  | language (answer : SymbolLanguage)
  | error (message : String)
  | function (behaviors : List Behavior)

inductive Behavior
  | behave (steps : List Step) (ending : Ending)

inductive Ending
  | throws (value : Datum LiteralReference)
  | returnsArgument (index : Nat)
  | returns (value : Datum LiteralReference)

inductive Step
  -- Program spaces and object files
  | createSpace (binder : String) (name : Option String)
  | addObjectFile (space binder name : String) (quick : Option String)
  | removeObjectFile (space objectFile : String)
  | dispose (space : String)
  | onDestroyed (listener : String) (behaviors : List Behavior)
  | setPartialSymbolsRead (objectFile : String) (value : Bool)
  -- Tables
  | table (binder : String) (slots : List (Slot × List Behavior)) (probes : Option (List Behavior))
      (inherited emptied : List TablePlace)
  | quickFunctions (binder : String) (functions : List (QuickFunction × List Behavior))
  | setSlot (table : TableChoice) (slot : Slot) (behaviors : Option (List Behavior))
  | setProbeTable (table : TableChoice) (behaviors : Option (List Behavior))
  | setProbes (table : TableChoice) (behaviors : List Behavior)
  | hold (binder objectFile : String)
  | activeTable (objectFile : String)
  | presentNames (table : TableChoice)
  | inspect (objectFile : String)
  | call (table : TableChoice) (method : Option Slot)
      (arguments : List (Datum LiteralReference)) (detached : Bool)
  -- Logging
  | setTable (objectFile table : String)
  | install (objectFile : String)
  | uninstall (objectFile : String)
  | isInstalled (objectFile : String)
  | setDebug (value : Bool)
  | getDebug
  | showDebug
  | setCommand (text : String)
  | applyEnvironment (environment : Environment)
  -- The diagnostic stream
  | setStream (stream : String) (behaviors : List Behavior)
  | writeRecord (text : String)
  -- Symbol files
  | addSymbolFile (space binder name table : String) (quick : Option String)
      (flags : Datum LiteralReference)
  | finishSymbolFile (space objectFile : String)
  | probes (objectFile : String)
  | relocate (objectFile : String) (sectionInfo buffer : Datum LiteralReference)
  -- Quick functions
  | hasPartialSymbols (objectFile : String)
  | quick (objectFile : String) (request : QuickRequest (Datum LiteralReference))
  | symbolLanguage (objectFile name : String) (domain : Domain)
  -- Events and side tables of the script's own
  | createEvent (binder : String)
  | subscribe (event listener : String) (behaviors : List Behavior)
  | post (event : String) (data : Datum LiteralReference)
  | createSideTable (binder : String)
  | associate (table : String) (key data : Datum LiteralReference)
  | clear (table : String) (key : Datum LiteralReference)
  | lookup (table : String) (key : Datum LiteralReference)
  | has (table : String) (key : Datum LiteralReference)
  -- Everywhere
  | state
  | callArgument (index : Nat) (arguments : List (Datum LiteralReference))
  | render (value : Datum LiteralReference)

end

abbrev Literal :=
  Datum LiteralReference

def ReferenceKind.content : ReferenceKind → Content
  | .symtab filename => .symtab filename
  | .compunit filename => .compunit filename
  | .language answer => .language answer
  | _ => .plain

end ReaderTrace.Script
