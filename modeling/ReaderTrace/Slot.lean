/-!
The functions that a symbol reader may provide for an object file.

A reader leaves out what it does not support. The probe functions are not
among these eight: they are grouped in a table of their own.
-/

namespace ReaderTrace

inductive Slot
  | newInit
  | init
  | read
  | finish
  | offsets
  | segments
  | readLinetable
  | relocate
deriving DecidableEq

namespace Slot

def all : List Slot :=
  [.newInit, .init, .read, .finish, .offsets, .segments, .readLinetable, .relocate]

def name : Slot → String
  | .newInit => "newInit"
  | .init => "init"
  | .read => "read"
  | .finish => "finish"
  | .offsets => "offsets"
  | .segments => "segments"
  | .readLinetable => "readLinetable"
  | .relocate => "relocate"

end Slot

/-- The name under which the function of the probe table is listed. -/
def probesName : String :=
  "getProbes"

/-- The name under which a table holds its probe table. -/
def probeTableName : String :=
  "probeFns"

/-! ### Flags of the read function -/

namespace ReadFlag

def verbose : Nat := 1 <<< 1

def mainline : Nat := 1 <<< 2

def deferBreakpointReset : Nat := 1 <<< 3

/-- The bit that says that the symbols are not to be read yet. -/
def noReadBit : Nat := 4

def noRead : Nat := 1 <<< noReadBit

end ReadFlag

end ReaderTrace
