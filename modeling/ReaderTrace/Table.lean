import ReaderTrace.Record
import ReaderTrace.Slot

/-!
Tables of reader functions, and the shadows that stand in for them.

A reader's table may be made from another table, whose slots it then shows
through: a slot is read from the table itself where it has one and from the
other otherwise. Either may be changed at any time. A shadow has none of this.
It is a record of the forwarding functions that were made for the slots present
when it was built, and nothing changes it afterwards.

The functions of a reader's table are the clients' own. A client can take a
forwarding function out of a shadow and call it by itself, but a table into
which it has put one is not described here.
-/

namespace ReaderTrace

/-! ### Reader tables -/

/-- A place of a table that may be its own or show through from the table it
was made from. A place of its own may be empty, and then hides the other. -/
structure Layered (α : Type) where
  own : Option (Option α)
  behind : Option α
deriving DecidableEq

namespace Layered

variable {α : Type}

def read (place : Layered α) : Option α :=
  match place.own with
  | some content => content
  | none => place.behind

/-- Assignment always writes the table's own place. -/
def assign (place : Layered α) (content : Option α) : Layered α :=
  { place with own := some content }

@[simp] theorem read_assign (place : Layered α) (content : Option α) :
    (place.assign content).read = content :=
  rfl

end Layered

/-- A table with functions of clients only. -/
structure ReaderTable where
  functions : Slot → Layered FunctionId
  probes : Layered ProbeTableId

/-! ### What a function is called on -/

/-- The table of probe functions of a reader's table or of a shadow. -/
inductive ProbeTableRef
  | reader (id : ProbeTableId)
  | shadow (id : ShadowId)
deriving DecidableEq

/-- The table that a function was taken from when it was called. A function
that was taken out of its table first has no receiver. -/
inductive Receiver
  | table (table : TableRef)
  | probes (table : ProbeTableRef)
deriving DecidableEq

/-! ### Functions and shadows -/

/-- What a forwarding function keeps from the moment it was built. -/
structure Forwarding where
  label : TableLabel
  name : String
  /-- The receiver that the forwarded call gets, whatever the call's own. -/
  receiver : Receiver
  /-- The object file whose calls are logged; it is left out of the arguments. -/
  host : ObjectFileId
  hostName : String
deriving DecidableEq

/-- A function found in a table: a client's own, or one that writes records
and passes the call on. -/
inductive TableFunction
  | client (id : FunctionId)
  | forward (how : Forwarding) (target : TableFunction)
deriving DecidableEq

structure Shadow where
  base : TableRef
  host : ObjectFileId
  functions : Slot → Option TableFunction
  probes : Option TableFunction

namespace Shadow

def keys (shadow : Shadow) : List String :=
  ((Slot.all.filter fun slot => (shadow.functions slot).isSome).map Slot.name) ++
    (if shadow.probes.isSome then [probeTableName] else [])

end Shadow

structure DebugData where
  base : TableRef
  shadow : TableRef
deriving DecidableEq

/-- The quick functions of a reader. Whether symbols can be read when they are
first needed is the one question that a reader need not answer. -/
structure QuickFunctions where
  answersLazyReading : Bool
deriving DecidableEq

end ReaderTrace
