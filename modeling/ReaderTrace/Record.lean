import ReaderTrace.Address
import ReaderTrace.Number.Decimal

/-!
The text of trace records.

A call record names the table and the function, then the object file and the
rendered arguments; a result record leaves the arguments out. Rendering a
reference gives it an address token, so rendering passes the address book on.
-/

namespace ReaderTrace

inductive TableLabel
  | symbols
  | probes
  | quick
deriving DecidableEq

def TableLabel.name : TableLabel → String
  | .symbols => "sf"
  | .probes => "probes"
  | .quick => "qf"

namespace Record

/-- What is written for a value that is absent or was not found. -/
def nullPlaceholder : String :=
  "NULL"

/-- `sf->read (libfoo.so, 0x2)` -/
def call (label name objectFile : String) (arguments : List String) : String :=
  label ++ "->" ++ name ++ " (" ++ String.intercalate ", " (objectFile :: arguments) ++ ")"

/-- `sf->relocate (...) = 0x1010` -/
def result (label name value : String) : String :=
  label ++ "->" ++ name ++ " (...) = " ++ value

def booleanText (value : Bool) : String :=
  if value then "true" else "false"

/-- An integral number is written in base sixteen, any other in base ten. -/
def numberText (value : Double) : String :=
  match value.toInt? with
  | some integer => Hexadecimal.render integer
  | none => Decimal.render value

def render (value : Value) (book : AddressBook) : String × AddressBook :=
  match value with
  | .absent => (nullPlaceholder, book)
  | .null => (nullPlaceholder, book)
  | .boolean value => (booleanText value, book)
  | .text value => ("\"" ++ value ++ "\"", book)
  | .number value => (numberText value, book)
  | .integer value => (Hexadecimal.render value, book)
  | .symbol description => ("Symbol(" ++ description.getD "" ++ ")", book)
  | .reference referent =>
      let book := book.assign referent
      (Hexadecimal.render (book.addressOf referent), book)

def renderAll : List Value → AddressBook → List String × AddressBook
  | [], book => ([], book)
  | value :: rest, book =>
      let (text, book) := render value book
      let (texts, book) := renderAll rest book
      (text :: texts, book)

theorem renderAll_append (first second : List Value) (book : AddressBook) :
    renderAll (first ++ second) book =
      ((renderAll first book).1 ++ (renderAll second (renderAll first book).2).1,
        (renderAll second (renderAll first book).2).2) := by
  induction first generalizing book with
  | nil => rfl
  | cons value rest ih => simp [renderAll, ih]

end Record

end ReaderTrace
