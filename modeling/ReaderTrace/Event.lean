import ReaderTrace.Logging
import ReaderTrace.Routine

/-!
Events and their listeners.

Posting calls the listeners that were subscribed when the posting began, in
the order of their subscriptions. What a listener throws ends the posting and
reaches whoever posted.
-/

namespace ReaderTrace.Event

def create : Edit EventId := do
  let library ← get
  set { library with events := library.events ++ [[]] }
  pure { index := library.events.length }

/-- The same function may be subscribed more than once. -/
def subscribe (event : EventId) (listener : Listener) : Edit Unit :=
  modify fun library =>
    { library with events := library.events.modify event.index (· ++ [listener]) }

/-- Tells one listener. The library listens to destroyed object files only. -/
def notify (data : Value) : Listener → Routine Unit
  | .release =>
      match data with
      | .reference (.objectFile file) => Routine.edit (Logging.release file)
      | _ => pure ()
  | .client function => discard (Routine.ask (.function function none [data]))

def post (event : EventId) (data : Value) : Routine Unit := do
  let library ← Routine.library
  (library.listeners event).forM (notify data)

end ReaderTrace.Event
