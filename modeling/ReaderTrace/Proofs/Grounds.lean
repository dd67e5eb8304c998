import ReaderTrace.Proofs.Course
import ReaderTrace.Proofs.Steady

/-!
Which program spaces there are, which are registered and which are disposed.

Only creating a space and disposing of one change any of this. Everything else
that the library does, the removal of object files among it, leaves it alone,
whatever state the library is in.
-/

namespace ReaderTrace

open Routine

/-- The registry and the disposed flags. -/
def Library.grounds (library : Library) : List SpaceId × List Bool :=
  (library.registry, library.spaces.map ProgramSpace.disposed)

namespace Library

variable {library after : Library}

theorem registry_of_grounds (same : after.grounds = library.grounds) :
    after.registry = library.registry :=
  congrArg Prod.fst same

theorem closed_iff_flag {space : SpaceId} :
    library.Closed space ↔ library.grounds.2[space.index]? = some true := by
  change _ ↔ (library.spaces.map ProgramSpace.disposed)[space.index]? = some true
  rw [List.getElem?_map, Option.map_eq_some_iff]
  exact Iff.rfl

theorem closed_of_grounds (same : after.grounds = library.grounds) (space : SpaceId) :
    after.Closed space ↔ library.Closed space := by
  rw [closed_iff_flag, closed_iff_flag, same]

theorem grounds_modifySpace_of_kept (library : Library) (space : SpaceId)
    {change : ProgramSpace → ProgramSpace}
    (kept : ∀ record, (change record).disposed = record.disposed) :
    (library.modifySpace space change).grounds = library.grounds := by
  unfold grounds
  rw [library.map_spaces_of_kept space kept]
  rfl

end Library

theorem Edited.grounds {library after : Library} (edited : Edited library after) :
    after.grounds = library.grounds := by
  cases edited with
  | fileAdded space name quick opened =>
    exact Library.grounds_modifySpace_of_kept _ space fun _ => rfl
  | fileStruck space file member => exact library.grounds_modifySpace_of_kept space fun _ => rfl
  | _ => rfl

theorem Rewritten.grounds {library after : Library} (rewritten : Rewritten False library after) :
    after.grounds = library.grounds := by
  induction rewritten with
  | refl => rfl
  | tail _ step ih =>
    rcases step with edited | ⟨impossible, _⟩
    · exact edited.grounds.trans ih
    · exact impossible.elim

theorem Routine.Rewrites.steady {α : Type} {routine : Routine α}
    (rewrites : routine.Rewrites False) : routine.Steady Library.grounds :=
  fun now => (rewrites now).keeps fun _ _ rewritten => rewritten.grounds

theorem Operation.steady {operation : Operation} (other : ¬operation.Settles) :
    operation.routine.Steady Library.grounds :=
  Rewrites.steady fun now => (operation.rewrites now).weaken other

end ReaderTrace
