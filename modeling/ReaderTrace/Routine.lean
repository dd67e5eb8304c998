import ReaderTrace.Edit
import ReaderTrace.Quick.Function

/-!
Operations of the library during which clients run.

A routine is the dialogue between one operation and the clients that it calls:
it reads and replaces the library's state, and at a call it stops until the
client has replied. The client may meanwhile have run any operations of its
own, so a routine sees the state afresh after each call. A routine is a tree
without loops, and everything about it is proved by recursion on the tree; how
clients behave is not part of it and is left to `Routine.run`.
-/

namespace ReaderTrace

/-! ### Calls and replies -/

inductive Call
  | function (function : FunctionId) (receiver : Option Receiver) (arguments : List Value)
  | quick (functions : QuickId) (function : QuickFunction) (arguments : List Value)
  | write (stream : Stream) (record : String)
deriving DecidableEq

/-- A client returns a value or throws one. -/
inductive Reply
  | returned (value : Value)
  | thrown (value : Value)
deriving DecidableEq

/-- Points of a run that statements about its history refer to. They have no
effect. -/
inductive Milestone
  /-- The gated setter has made `table` the table of an object file. -/
  | tableSet (file : ObjectFileId) (table : TableRef)
  /-- The destruction of an object file is about to be announced. -/
  | destroyed (file : ObjectFileId)
deriving DecidableEq

/-! ### Routines -/

inductive Routine (α : Type) : Type
  | done (outcome : Except Raised α)
  | read (next : Library → Routine α)
  | write (library : Library) (next : Routine α)
  | call (request : Call) (next : Reply → Routine α)
  | mark (milestone : Milestone) (next : Routine α)

namespace Routine

variable {α β γ : Type}

def bind : Routine α → (α → Routine β) → Routine β
  | .done (.ok value), next => next value
  | .done (.error raised), _ => .done (.error raised)
  | .read rest, next => .read fun library => (rest library).bind next
  | .write library rest, next => .write library (rest.bind next)
  | .call request rest, next => .call request fun reply => (rest reply).bind next
  | .mark milestone rest, next => .mark milestone (rest.bind next)

instance : Monad Routine where
  pure value := .done (.ok value)
  bind := bind

theorem bind_done (routine : Routine α) :
    (routine.bind fun value => .done (.ok value)) = routine := by
  induction routine with
  | done outcome => cases outcome <;> rfl
  | read rest ih => exact congrArg Routine.read (funext ih)
  | write library rest ih => exact congrArg (Routine.write library) ih
  | call request rest ih => exact congrArg (Routine.call request) (funext ih)
  | mark milestone rest ih => exact congrArg (Routine.mark milestone) ih

theorem bind_assoc (routine : Routine α) (first : α → Routine β) (second : β → Routine γ) :
    (routine.bind first).bind second = routine.bind fun value => (first value).bind second := by
  induction routine with
  | done outcome => cases outcome <;> rfl
  | read rest ih => exact congrArg Routine.read (funext ih)
  | write library rest ih => exact congrArg (Routine.write library) ih
  | call request rest ih => exact congrArg (Routine.call request) (funext ih)
  | mark milestone rest ih => exact congrArg (Routine.mark milestone) ih

instance : LawfulMonad Routine :=
  LawfulMonad.mk' Routine (fun routine => bind_done routine) (fun _ _ => rfl)
    (fun routine first second => bind_assoc routine first second)

/-! ### The steps of a routine -/

def raise (raised : Raised) : Routine α :=
  .done (.error raised)

def fail (fault : Fault) : Routine α :=
  raise (.fault fault)

def library : Routine Library :=
  .read fun library => .done (.ok library)

def edit (change : Edit α) : Routine α :=
  .read fun library =>
    let (outcome, library) := change.apply library
    .write library (.done outcome)

instance : MonadLift Edit Routine where
  monadLift := edit

/-- Calls a client; what it throws ends the routine. -/
def ask (request : Call) : Routine Value :=
  .call request fun
    | .returned value => .done (.ok value)
    | .thrown value => .done (.error (.thrown value))

def reached (milestone : Milestone) : Routine Unit :=
  .mark milestone (.done (.ok ()))

/-! ### Running -/

/-- Clients with a state of their own. A client that is called may change the
library; it gives up when it does not reply at all. -/
abbrev Clients (ε σ : Type) :=
  Call → Library → σ → Except ε (Reply × Library × σ)

/-- Carries a routine through with the given clients. -/
def run {ε σ : Type} (clients : Clients ε σ) :
    Routine α → Library → σ → Except ε (Except Raised α × Library × σ)
  | .done outcome, library, state => .ok (outcome, library, state)
  | .read next, library, state => run clients (next library) library state
  | .write library next, _, state => run clients next library state
  | .call request next, library, state =>
      match clients request library state with
      | .error reason => .error reason
      | .ok (reply, library, state) => run clients (next reply) library state
  | .mark _ next, library, state => run clients next library state

end Routine

end ReaderTrace
