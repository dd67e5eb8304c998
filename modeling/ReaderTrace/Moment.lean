import ReaderTrace.Operation

/-!
Runs of the library among clients that do as they please.

At a moment a client has control: outside all operations, or inside a call
that the library waits for. It either starts an operation, which runs until
the library calls a client or has finished, or it answers the innermost call.
Operations therefore nest to any depth, and nothing is assumed about clients
beyond the rules of the run. All that passes between the library and its
clients is kept in a history.
-/

namespace ReaderTrace

inductive Happening
  | started (operation : Operation)
  | finished (operation : Operation) (outcome : Except Raised Result)
  | called (operation : Operation) (request : Call)
  | answered (operation : Operation) (request : Call) (reply : Reply)
  | reached (milestone : Milestone)

def Happening.milestone? : Happening → Option Milestone
  | .reached milestone => some milestone
  | _ => none

/-- The library with the history of the run that led to it. -/
structure World where
  library : Library
  history : List Happening

namespace World

def initial : World :=
  { library := .initial, history := [] }

def note (world : World) (happening : Happening) : World :=
  { world with history := world.history ++ [happening] }

/-- The world after an edit, whether or not the edit fails. -/
def after {α : Type} (world : World) (change : Edit α) : World :=
  { world with library := (change.apply world.library).2 }

def milestones (world : World) : List Milestone :=
  world.history.filterMap Happening.milestone?

end World

/-- A call that waits for its reply, with the operation that made it and what
is left of that operation. -/
structure Frame where
  operation : Operation
  request : Call
  next : Reply → Routine Result

structure Moment extends World where
  /-- The calls without a reply, the innermost first. -/
  pending : List Frame

namespace Moment

def initial : Moment :=
  { World.initial with pending := [] }

/-- Carries a routine on until a client has control again. -/
def proceed (operation : Operation) (pending : List Frame) : Routine Result → World → Moment
  | .done outcome, world =>
      { world.note (.finished operation outcome) with pending := pending }
  | .read next, world => proceed operation pending (next world.library) world
  | .write library next, world =>
      proceed operation pending next { world with library := library }
  | .call request next, world =>
      { world.note (.called operation request) with
        pending := { operation := operation, request := request, next := next } :: pending }
  | .mark milestone next, world =>
      proceed operation pending next (world.note (.reached milestone))

def start (moment : Moment) (operation : Operation) : Moment :=
  proceed operation moment.pending operation.routine (moment.note (.started operation))

def resume (moment : Moment) (frame : Frame) (rest : List Frame) (reply : Reply) : Moment :=
  proceed frame.operation rest (frame.next reply)
    (moment.note (.answered frame.operation frame.request reply))

end Moment

abbrev Rules :=
  Moment → Happening → Prop

/-- Clients may start the operations of one kind, and answer as they like. -/
def Rules.only (allowed : Operation → Prop) : Rules := fun _ happening =>
  ∀ operation, happening = .started operation → allowed operation

def Rules.free : Rules :=
  Rules.only fun _ => True

/-- Clients never install or remove logging themselves. -/
def Rules.gated : Rules :=
  Rules.only Operation.Gated

inductive Reachable (rules : Rules) : Moment → Prop
  | initial : Reachable rules .initial
  | start {moment : Moment} (operation : Operation) (before : Reachable rules moment)
      (admissible : operation.Admissible moment.library)
      (permitted : rules moment (.started operation)) :
      Reachable rules (moment.start operation)
  | resume {moment : Moment} {frame : Frame} {rest : List Frame} (reply : Reply)
      (before : Reachable rules moment) (waiting : moment.pending = frame :: rest)
      (permitted : rules moment (.answered frame.operation frame.request reply)) :
      Reachable rules (moment.resume frame rest reply)

end ReaderTrace
