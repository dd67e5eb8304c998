import ReaderTrace.Proofs.Conservation

/-!
Finishes of symbol files that return normally.

A finish returns normally only after it has announced that its object file is
destroyed, and the announcement is made once in a run. Finishes may wait inside
one another, so those under way that have made the announcement are counted with
those that have returned.
-/

namespace ReaderTrace

open Routine

/-! ### Routines that announce a destruction -/

namespace Routine

variable {α β : Type} {file : ObjectFileId}

/-- On every way to a normal end the routine announces the destruction of the
object file. -/
def Announces (file : ObjectFileId) : Routine α → Prop
  | .done (.ok _) => False
  | .done (.error _) => True
  | .read next => ∀ library, Announces file (next library)
  | .write _ next => Announces file next
  | .call _ next => ∀ reply, Announces file (next reply)
  | .mark milestone next => milestone = .destroyed file ∨ Announces file next

theorem Announces.bind {routine : Routine α} (announces : routine.Announces file)
    (next : α → Routine β) : (routine.bind next).Announces file := by
  induction routine with
  | done outcome =>
    cases outcome with
    | ok value => exact announces.elim
    | error raised => exact trivial
  | read rest ih => exact fun library => ih library (announces library)
  | write library rest ih => exact ih announces
  | call request rest ih => exact fun reply => ih reply (announces reply)
  | mark milestone rest ih => exact announces.imp_right ih

theorem announces_bind (routine : Routine α) {next : α → Routine β}
    (announces : ∀ value, (next value).Announces file) :
    (routine.bind next).Announces file := by
  induction routine with
  | done outcome =>
    cases outcome with
    | ok value => exact announces value
    | error raised => exact trivial
  | read rest ih => exact ih
  | write library rest ih => exact ih
  | call request rest ih => exact ih
  | mark milestone rest ih => exact Or.inr ih

end Routine

theorem announces_finish (space : SpaceId) (file : ObjectFileId) :
    (Operation.finishSymbolFile space file).routine.Announces file := by
  have removes : (ProgramSpace.removeObjectFile space file).Announces file :=
    announces_bind _ fun _ => Or.inl rfl
  have finishes : (SymbolFile.finish space file).Announces file :=
    announces_bind _ fun _ => removes
  exact finishes.bind _

/-! ### The balance of finishes and announcements -/

def Happening.finished? : Happening → Option ObjectFileId
  | .finished (.finishSymbolFile _ file) (.ok _) => some file
  | _ => none

/-- How often a finish of the object file has returned normally. -/
def World.finishes (world : World) (file : ObjectFileId) : Nat :=
  (world.history.filterMap Happening.finished?).count file

theorem World.finishes_note (world : World) (happening : Happening) (file : ObjectFileId) :
    (world.note happening).finishes file =
      world.finishes file + happening.finished?.toList.count file := by
  change ((world.history ++ [happening]).filterMap Happening.finished?).count file = _
  rw [List.filterMap_append, List.count_append]
  unfold finishes
  cases found : happening.finished? <;> simp [found]

/-- How many of the finishes that wait may have announced the destruction; the
others have yet to announce it. -/
inductive Credits (file : ObjectFileId) : List Frame → Nat → Prop
  | none : Credits file [] 0
  | owing {frame : Frame} {rest : List Frame} {credits : Nat} (outer : Credits file rest credits)
      (owes : ∀ space, frame.operation = .finishSymbolFile space file →
        ∀ reply, (frame.next reply).Announces file) :
      Credits file (frame :: rest) credits
  | paid {frame : Frame} {rest : List Frame} {credits : Nat} (outer : Credits file rest credits) :
      Credits file (frame :: rest) (credits + 1)

/-- Each finish that has returned normally has had an announcement of its own. -/
def Moment.Balanced (moment : Moment) (file : ObjectFileId) : Prop :=
  ∃ credits, Credits file moment.pending credits ∧
    moment.finishes file + credits ≤ moment.destructions file

namespace Moment

variable {file : ObjectFileId}

/-- An operation is carried on that has made `paid` announcements so far, or
will announce the destruction before it returns. -/
theorem balanced_proceed (operation : Operation) {routine : Routine Result} {pending : List Frame}
    {credits : Nat} (paid : Nat) (world : World) (outer : Credits file pending credits)
    (balance : world.finishes file + credits + paid ≤ world.destructions file)
    (owes : paid = 0 → ∀ space, operation = .finishSymbolFile space file →
      routine.Announces file) :
    (proceed operation pending routine world).Balanced file := by
  induction routine generalizing paid world with
  | done outcome =>
    refine ⟨credits, outer, ?_⟩
    change (world.note _).finishes file + credits ≤ (world.note _).destructions file
    rw [World.finishes_note, World.destructions_note]
    have counted : (Happening.finished? (.finished operation outcome)).toList.count file ≤
        paid := by
      cases outcome with
      | error raised => cases operation <;> exact Nat.zero_le _
      | ok result =>
        cases operation with
        | finishSymbolFile space other =>
          by_cases same : other = file
          · subst same
            have positive : paid ≠ 0 := fun none => owes none space rfl
            have once : (Happening.finished? (.finished (.finishSymbolFile space other)
                (.ok result))).toList.count other = 1 := by
              simp [Happening.finished?]
            omega
          · simp [Happening.finished?, same]
        | _ => exact Nat.zero_le _
    omega
  | read next ih =>
    exact ih world.library paid world balance fun none space same =>
      owes none space same world.library
  | write library next ih => exact ih paid { world with library := library } balance owes
  | call request next _ =>
    have noted : (world.note (.called operation request)).finishes file = world.finishes file :=
      World.finishes_note _ _ _
    have unannounced : (world.note (.called operation request)).destructions file =
        world.destructions file := World.destructions_note _ _ _
    cases paid with
    | zero =>
      refine ⟨credits, .owing outer (owes rfl), ?_⟩
      change (world.note _).finishes file + credits ≤ (world.note _).destructions file
      rw [noted, unannounced]
      exact balance
    | succ paid =>
      refine ⟨credits + 1, .paid outer, ?_⟩
      change (world.note _).finishes file + (credits + 1) ≤ (world.note _).destructions file
      rw [noted, unannounced]
      omega
  | mark milestone next ih =>
    have noted : (world.note (.reached milestone)).finishes file = world.finishes file :=
      World.finishes_note _ _ _
    have announced := world.destructions_note (.reached milestone) file
    by_cases destroys : milestone = .destroyed file
    · subst destroys
      apply ih (paid + 1) (world.note (.reached (.destroyed file)))
      · rw [noted, announced]
        simp [Happening.milestone?]
        omega
      · intro impossible
        cases impossible
    · apply ih paid (world.note (.reached milestone))
      · rw [noted, announced]
        omega
      · intro none space same
        exact (owes none space same).resolve_left destroys

end Moment

theorem Reachable.balanced {rules : Rules} {moment : Moment} (reachable : Reachable rules moment)
    (file : ObjectFileId) : moment.Balanced file := by
  induction reachable with
  | initial => exact ⟨0, .none, Nat.le_refl _⟩
  | @start moment operation _ _ _ ih =>
    obtain ⟨credits, outer, balance⟩ := ih
    apply Moment.balanced_proceed operation 0 (moment.note (.started operation)) outer
    · rw [World.finishes_note, World.destructions_note]
      exact balance
    · intro _ space same
      rw [same]
      exact announces_finish space file
  | @resume moment frame rest reply _ waiting _ ih =>
    obtain ⟨credits, outer, balance⟩ := ih
    rw [waiting] at outer
    have noted : ∀ happening, Happening.finished? happening = none →
        happening.milestone? = none →
        (moment.note happening).finishes file = moment.finishes file ∧
        (moment.note happening).destructions file = moment.destructions file := by
      intro happening unfinished unannounced
      rw [World.finishes_note, World.destructions_note, unfinished, unannounced]
      exact ⟨rfl, rfl⟩
    obtain ⟨finishesEq, destructionsEq⟩ :=
      noted (.answered frame.operation frame.request reply) rfl rfl
    cases outer with
    | owing outer owes =>
      apply Moment.balanced_proceed frame.operation 0 _ outer
      · rw [finishesEq, destructionsEq]
        exact balance
      · intro _ space same
        exact owes space same reply
    | @paid _ _ credits outer =>
      apply Moment.balanced_proceed frame.operation 1 _ outer
      · rw [finishesEq, destructionsEq]
        omega
      · intro impossible
        cases impossible

theorem Reachable.finishes_le_one {moment : Moment} (reachable : Reachable .free moment)
    (file : ObjectFileId) : moment.finishes file ≤ 1 := by
  obtain ⟨credits, _, balance⟩ := reachable.balanced file
  have conserved := Begun.conserved reachable.begun_free file
  have once := conserved.destructions_le_one
  omega

end ReaderTrace
