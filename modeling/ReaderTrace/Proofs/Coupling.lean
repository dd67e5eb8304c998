import ReaderTrace.Proofs.Inventory
import ReaderTrace.Proofs.Unaware

/-!
Two routines that run in step, the one with logging and the other without.

The plain routine makes the same calls as the traced one, apart from the writing
of records, and each pair of calls gets the same reply. While such a call waits
the two libraries agree; while a record is written nothing happens to the
library at all. The traced routine is followed in a whole world, so that what
the course promises about it can be used.
-/

namespace ReaderTrace

/-! ### Replies of the right type -/

/-- Whether a quick function may return a value where the objects of clients hold
`contents`: a symbol table, or null, where one is asked for. -/
def QuickFunction.MayReturn (contents : ObjectId → Content) : QuickFunction → Value → Prop
  | .findLastSourceSymtab, value =>
      value = .null ∨ ∃ id filename, value = .reference (.object id) ∧
        contents id = .symtab filename
  | .lookupSymbol, value | .findCompunitSymtabByAddress, value
  | .findPcSectCompunitSymtab, value =>
      value = .null ∨ ∃ id filename, value = .reference (.object id) ∧
        contents id = .compunit filename
  | _, _ => True

/-- The replies that a call may get: a record is written normally, and a quick
function returns what its type allows. Anything may be thrown elsewhere. -/
def Call.Admits (contents : ObjectId → Content) : Call → Reply → Prop
  | .write _ _, reply => ∃ value, reply = .returned value
  | .quick _ asked _, .returned value => asked.MayReturn contents value
  | _, _ => True

def Call.IsRecord : Call → Prop
  | .write _ _ => True
  | _ => False

/-! ### Coupled routines -/

section Coupled

variable {α β γ δ : Type}

/-- From the world `now` and the library `plain`, two routines run in step until
both end as `post` says. The view shows the calls of the traced routine as the
plain one makes them. -/
inductive Coupled (view : Call → Call)
    (post : Except Raised α → Except Raised β → World → Library → Prop) :
    Routine α → World → Routine β → Library → Prop
  | done {outcome : Except Raised α} {other : Except Raised β} {now : World} {plain : Library}
      (ended : post outcome other now plain) :
      Coupled view post (.done outcome) now (.done other) plain
  | readLeft {next : Library → Routine α} {now : World} {right : Routine β} {plain : Library}
      (rest : Coupled view post (next now.library) now right plain) :
      Coupled view post (.read next) now right plain
  | readRight {left : Routine α} {now : World} {next : Library → Routine β} {plain : Library}
      (rest : Coupled view post left now (next plain) plain) :
      Coupled view post left now (.read next) plain
  | writeLeft {library : Library} {next : Routine α} {now : World} {right : Routine β}
      {plain : Library}
      (rest : Coupled view post next { now with library := library } right plain) :
      Coupled view post (.write library next) now right plain
  | writeRight {left : Routine α} {now : World} {library : Library} {next : Routine β}
      {plain : Library} (rest : Coupled view post left now next library) :
      Coupled view post left now (.write library next) plain
  | mark {milestone : Milestone} {left : Routine α} {now : World} {right : Routine β}
      {plain : Library}
      (rest : Coupled view post left (now.note (.reached milestone)) right plain) :
      Coupled view post (.mark milestone left) now (.mark milestone right) plain
  | record {stream : Stream} {text : String} {next : Reply → Routine α} {now : World}
      {right : Routine β} {plain : Library}
      (rest : ∀ value later, Course Operation.Gated now later → later.library = now.library →
        Coupled view post (next (.returned value)) later right plain) :
      Coupled view post (.call (.write stream text) next) now right plain
  | call {request other : Call} {left : Reply → Routine α} {now : World}
      {right : Reply → Routine β} {plain : Library} (agree : Agree now.library plain)
      (asks : ¬request.IsRecord) (viewed : view request = other)
      (rest : ∀ reply later replied, request.Admits later.library.contents reply →
        Course Operation.Gated now later → Agree later.library replied →
        Coupled view post (left reply) later (right reply) replied) :
      Coupled view post (.call request left) now (.call other right) plain

namespace Coupled

variable {view : Call → Call}

theorem mono {post weaker : Except Raised α → Except Raised β → World → Library → Prop}
    {left : Routine α} {right : Routine β} {now : World} {plain : Library}
    (coupled : Coupled view post left now right plain)
    (implies : ∀ outcome other later replied, post outcome other later replied →
      weaker outcome other later replied) :
    Coupled view weaker left now right plain := by
  induction coupled with
  | done ended => exact .done (implies _ _ _ _ ended)
  | readLeft _ ih => exact .readLeft ih
  | readRight _ ih => exact .readRight ih
  | writeLeft _ ih => exact .writeLeft ih
  | writeRight _ ih => exact .writeRight ih
  | mark _ ih => exact .mark ih
  | record _ ih => exact .record ih
  | call agree asks viewed _ ih => exact .call agree asks viewed ih

/-- How two sequences go on after their first parts. -/
def Onward (view : Call → Call) (left : α → Routine γ) (right : β → Routine δ)
    (post : Except Raised γ → Except Raised δ → World → Library → Prop) :
    Except Raised α → Except Raised β → World → Library → Prop
  | .ok value, .ok other, now, plain => Coupled view post (left value) now (right other) plain
  | .error raised, .error other, now, plain => post (.error raised) (.error other) now plain
  | _, _, _, _ => False

theorem bind {left : Routine α} {right : Routine β} {leftNext : α → Routine γ}
    {rightNext : β → Routine δ} {now : World} {plain : Library}
    {post : Except Raised γ → Except Raised δ → World → Library → Prop}
    (first : Coupled view (Onward view leftNext rightNext post) left now right plain) :
    Coupled view post (left >>= leftNext) now (right >>= rightNext) plain := by
  change Coupled view post (left.bind leftNext) now (right.bind rightNext) plain
  induction first with
  | @done outcome other now plain ended =>
    cases outcome with
    | ok value =>
      cases other with
      | ok value => exact ended
      | error raised => exact absurd ended not_false
    | error raised =>
      cases other with
      | ok value => exact absurd ended not_false
      | error raised => exact .done ended
  | readLeft _ ih => exact .readLeft ih
  | readRight _ ih => exact .readRight ih
  | writeLeft _ ih => exact .writeLeft ih
  | writeRight _ ih => exact .writeRight ih
  | mark _ ih => exact .mark ih
  | record _ ih => exact .record ih
  | call agree asks viewed _ ih => exact .call agree asks viewed ih

theorem along {post : Except Raised α → Except Raised β → World → Library → Prop}
    {ends : Except Raised α → World → Prop} {left : Routine α} {right : Routine β}
    {start now : World} {plain : Library} (coupled : Coupled view post left now right plain)
    (follows : Routine.Follows (course Operation.Gated) left start now ends) :
    Coupled view (fun outcome other later replied =>
      post outcome other later replied ∧ ends outcome later) left now right plain := by
  induction coupled with
  | done ended => exact .done ⟨ended, follows⟩
  | readLeft _ ih => exact .readLeft (ih follows)
  | readRight _ ih => exact .readRight (ih follows)
  | writeLeft _ ih => exact .writeLeft (ih follows)
  | writeRight _ ih => exact .writeRight (ih follows)
  | mark _ ih => exact .mark (ih follows)
  | record _ ih =>
    refine .record fun value later reached unchanged => ?_
    exact ih value later reached unchanged (follows.2 (.returned value) later reached)
  | call agree asks viewed _ ih =>
    refine .call agree asks viewed fun reply later replied admitted reached agreed => ?_
    exact ih reply later replied admitted reached agreed (follows.2 reply later reached)

end Coupled

/-! ### Routines that end alike -/

/-- Both routines end the same way, in libraries that agree. -/
def Alike (outcome other : Except Raised α) (now : World) (plain : Library) : Prop :=
  outcome = other ∧ Agree now.library plain

/-- The traced routine ends normally where there is nothing for the plain one
to do, in a library that still agrees. -/
def Alone (outcome : Except Raised α) (other : Except Raised Unit) (now : World)
    (plain : Library) : Prop :=
  (∃ value, outcome = .ok value) ∧ other = .ok () ∧ Agree now.library plain

namespace Coupled

variable {view : Call → Call} {now : World} {plain : Library}

theorem pure_alike (value : α) (agree : Agree now.library plain) :
    Coupled view Alike (pure value : Routine α) now (pure value) plain :=
  .done ⟨rfl, agree⟩

theorem raise_alike (raised : Raised) (agree : Agree now.library plain) :
    Coupled view Alike (Routine.raise raised : Routine α) now (Routine.raise raised) plain :=
  .done ⟨rfl, agree⟩

theorem library {post : Except Raised α → Except Raised β → World → Library → Prop}
    {left : Library → Routine α} {right : Library → Routine β}
    (rest : Coupled view post (left now.library) now (right plain) plain) :
    Coupled view post (Routine.library >>= left) now (Routine.library >>= right) plain :=
  .readLeft (.readRight rest)

theorem edit {post : Except Raised α → Except Raised β → World → Library → Prop}
    {change : Edit α} {other : Edit β}
    (ended : post (change.apply now.library).1 (other.apply plain).1 (now.after change)
      (other.apply plain).2) :
    Coupled view post (Routine.edit change) now (Routine.edit other) plain :=
  .readLeft (.writeLeft (.readRight (.writeRight (.done ended))))

theorem edit_alone {post : Except Raised α → Except Raised β → World → Library → Prop}
    {change : Edit α} {other : Except Raised β}
    (ended : post (change.apply now.library).1 other (now.after change) plain) :
    Coupled view post (Routine.edit change) now (.done other) plain :=
  .readLeft (.writeLeft (.done ended))

theorem edit_unaware {change : Edit α} (unaware : Unaware change)
    (agree : Agree now.library plain) (known : (now.after change).library.ProbesKnown) :
    Coupled view Alike (Routine.edit change) now (Routine.edit change) plain :=
  edit (agree.edit unaware known)

theorem bind_alike {left right : Routine α} {leftNext rightNext : α → Routine β}
    (honours : Routine.Honours (course Operation.Gated) left now)
    (first : Coupled view Alike left now right plain)
    (second : ∀ value later replied, Course Operation.Gated now later →
      Agree later.library replied →
      Coupled view Alike (leftNext value) later (rightNext value) replied) :
    Coupled view Alike (left >>= leftNext) now (right >>= rightNext) plain := by
  refine bind ((first.along honours).mono ?_)
  intro outcome other later replied ⟨⟨same, agree⟩, reached⟩
  subst same
  cases outcome with
  | ok value => exact second value later replied reached agree
  | error raised => exact ⟨rfl, agree⟩

/-- A first part that only the traced routine has. -/
theorem bind_alone {left : Routine α} {leftNext : α → Routine β} {right : Routine γ}
    {post : Except Raised β → Except Raised γ → World → Library → Prop}
    (first : Coupled view Alone left now (pure ()) plain)
    (second : ∀ value later replied, Agree later.library replied →
      Coupled view post (leftNext value) later right replied) :
    Coupled view post (left >>= leftNext) now right plain := by
  change Coupled view post _ now (pure () >>= fun _ => right) plain
  refine bind (first.mono ?_)
  intro outcome other later replied ⟨⟨value, ended⟩, nothing, agree⟩
  subst ended
  subst nothing
  exact second value later replied agree

end Coupled

end Coupled

end ReaderTrace
