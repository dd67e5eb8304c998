import ReaderTrace.Routine

/-!
Calling the functions of a table, and writing trace records.

A forwarding function writes its call record before the call, so that the
record is there even if the call throws, and its result record to whatever
stream is in place when the call has returned.
-/

namespace ReaderTrace

namespace Routine

/-- Writes a record to the stream in place; answers with what the stream's own
writing function returned. -/
def writeRecord (record : String) : Routine Value := do
  let library ← Routine.library
  ask (.write library.stream record)

end Routine

namespace Forwarding

/-- The arguments that the call record shows: all but the host itself. -/
def shownArguments (how : Forwarding) (arguments : List Value) : List Value :=
  arguments.filter fun argument => argument ≠ .objectFile how.host

def callRecord (how : Forwarding) (texts : List String) : String :=
  Record.call how.label.name how.name how.hostName texts

def resultRecord (how : Forwarding) (text : String) : String :=
  Record.result how.label.name how.name text

end Forwarding

namespace TableFunction

def invoke : TableFunction → Option Receiver → List Value → Routine Value
  | .client id, receiver, arguments => Routine.ask (.function id receiver arguments)
  | .forward how target, _, arguments => do
      let texts ← Edit.renderAll (how.shownArguments arguments)
      discard (Routine.writeRecord (how.callRecord texts))
      let result ← invoke target (some how.receiver) arguments
      if result ≠ .absent then
        let text ← Edit.render result
        discard (Routine.writeRecord (how.resultRecord text))
      pure result

end TableFunction

namespace Library

/-- The function that a name finds in a table, with the receiver that a call
through the table gives it. `none` stands for the function of the probe
table. -/
def method? (library : Library) (table : TableRef) :
    Option Slot → Option (Receiver × TableFunction)
  | some slot => (library.function? table slot).map fun function => (.table table, function)
  | none => (library.probes? table).map fun found => (.probes found.1, found.2)

end Library

end ReaderTrace
