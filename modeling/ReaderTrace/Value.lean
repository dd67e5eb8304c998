import ReaderTrace.Number.Double

/-!
The values that pass between the library and its clients.

A value is a primitive datum or a reference to something with an identity: an
object of the client, an object file, or a table of reader functions. A client
may change what an object of its own holds; a reference is only the identity.
-/

namespace ReaderTrace

/-! ### Identities -/

structure ObjectFileId where
  index : Nat
deriving DecidableEq

structure SpaceId where
  index : Nat
deriving DecidableEq

structure ReaderTableId where
  index : Nat
deriving DecidableEq

structure ProbeTableId where
  index : Nat
deriving DecidableEq

structure ShadowId where
  index : Nat
deriving DecidableEq

structure FunctionId where
  index : Nat
deriving DecidableEq

structure QuickId where
  index : Nat
deriving DecidableEq

/-- An object of a client. -/
structure ObjectId where
  index : Nat
deriving DecidableEq

structure EventId where
  index : Nat
deriving DecidableEq

/-- A table of reader functions: one that a reader made, or the shadow that
stands in for a table while its calls are logged. -/
inductive TableRef
  | reader (id : ReaderTableId)
  | shadow (id : ShadowId)
deriving DecidableEq

/-! ### Languages, domains, blocks -/

inductive Language
  | unknown
  | auto
  | c
  | objectiveC
  | rust
  | cPlusPlus
  | d
  | go
  | fortran
  | modula2
  | assembler
  | pascal
  | openCL
  | minimal
  | ada
deriving DecidableEq

def Language.name : Language → String
  | .unknown => "unknown"
  | .auto => "auto"
  | .c => "c"
  | .objectiveC => "objective-c"
  | .rust => "rust"
  | .cPlusPlus => "c++"
  | .d => "d"
  | .go => "go"
  | .fortran => "fortran"
  | .modula2 => "m2"
  | .assembler => "asm"
  | .pascal => "pascal"
  | .openCL => "opencl"
  | .minimal => "minimal"
  | .ada => "ada"

def Language.all : List Language :=
  [.unknown, .auto, .c, .objectiveC, .rust, .cPlusPlus, .d, .go, .fortran, .modula2,
    .assembler, .pascal, .openCL, .minimal, .ada]

inductive Domain
  | var
  | struct
  | module
  | label
  | commonBlock
deriving DecidableEq

def Domain.name : Domain → String
  | .var => "var"
  | .struct => "struct"
  | .module => "module"
  | .label => "label"
  | .commonBlock => "common-block"

def Domain.all : List Domain :=
  [.var, .struct, .module, .label, .commonBlock]

inductive SearchDomain
  | variables
  | functions
  | types
  | modules
  | everything
deriving DecidableEq

def SearchDomain.name : SearchDomain → String
  | .variables => "variables"
  | .functions => "functions"
  | .types => "types"
  | .modules => "modules"
  | .everything => "all"

def SearchDomain.all : List SearchDomain :=
  [.variables, .functions, .types, .modules, .everything]

inductive BlockKind
  | global
  | static
deriving DecidableEq

def BlockKind.name : BlockKind → String
  | .global => "global"
  | .static => "static"

def BlockKind.all : List BlockKind :=
  [.global, .static]

def BlockKind.position : BlockKind → Nat
  | .global => 0
  | .static => 1

structure SymbolLanguage where
  language : Language
  found : Bool
deriving DecidableEq

/-! ### Values -/

/-- What an object of a client holds, as far as the library looks into it: to
name a symbol table, or to read an answer about a symbol's language. -/
inductive Content
  | plain
  | symtab (filename : String)
  | compunit (filename : String)
  | language (answer : SymbolLanguage)
deriving DecidableEq

namespace Content

def symtab? : Content → Option String
  | .symtab filename => some filename
  | _ => none

def compunit? : Content → Option String
  | .compunit filename => some filename
  | _ => none

def language? : Content → Option SymbolLanguage
  | .language answer => some answer
  | _ => none

end Content

/-- Something with an identity, which therefore has an address. -/
inductive Referent
  | object (id : ObjectId)
  | objectFile (id : ObjectFileId)
  | table (table : TableRef)
deriving DecidableEq

/-- A primitive value or a reference; the type of the references is a
parameter. -/
inductive Datum (ρ : Type)
  | absent
  | null
  | boolean (value : Bool)
  | text (value : String)
  | number (value : Double)
  | integer (value : Int)
  | symbol (description : Option String)
  | reference (target : ρ)
deriving DecidableEq

abbrev Value :=
  Datum Referent

namespace Value

def objectFile (id : ObjectFileId) : Value :=
  .reference (.objectFile id)

def table (table : TableRef) : Value :=
  .reference (.table table)

/-- Whether an answer counts as a yes: neither absent, null, false, empty nor
zero. -/
def isAffirmative : Value → Bool
  | .absent => false
  | .null => false
  | .boolean value => value
  | .text value => !value.isEmpty
  | .number value => !(value.isNotANumber || value.toInt? == some 0)
  | .integer value => value != 0
  | .symbol _ => true
  | .reference _ => true

/-- An optional parameter that was left out is passed on as null. -/
def orNull : Value → Value
  | .absent => .null
  | value => value

end Value

end ReaderTrace
