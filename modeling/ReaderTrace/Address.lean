import ReaderTrace.Value

/-!
Address-like tokens for the things that have an identity.

A token is given out when a thing is first written, and the book keeps it for
ever: the position in the book is all that the token depends on.
-/

namespace ReaderTrace

/-- The referents that have a token, in the order in which they got it. -/
structure AddressBook where
  known : List Referent
deriving DecidableEq

namespace AddressBook

def empty : AddressBook :=
  { known := [] }

def base : Nat := 0x1000

def stride : Nat := 0x10

def addressAt (position : Nat) : Nat :=
  base + stride * position

def assign (book : AddressBook) (referent : Referent) : AddressBook :=
  if referent ∈ book.known then book else { known := book.known ++ [referent] }

def addressOf (book : AddressBook) (referent : Referent) : Nat :=
  addressAt (book.known.idxOf referent)

end AddressBook

end ReaderTrace
