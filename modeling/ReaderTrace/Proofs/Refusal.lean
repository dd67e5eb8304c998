import ReaderTrace.Proofs.Representation

/-!
What the logging operations leave behind when they are refused.

Taking logging off and setting a table check everything before they change
anything. Putting logging on does not: the entry is made before the assignment,
and it stays behind when the object file can no longer be given a table.
-/

namespace ReaderTrace

/-- An object file whose entry an install makes before it is refused. -/
structure Library.Strands (library : Library) (file : ObjectFileId) : Prop where
  detached : library.isAttached file = false
  active : (library.tableOf? file).isSome = true
  clean : library.debugDataOf? file = none

/-- A refusal that concerns at most the entry of `file`. -/
structure Contained (library after : Library) (file : ObjectFileId) : Prop where
  debug : after.debug = library.debug
  tables : ∀ other, after.tableOf? other = library.tableOf? other
  entries : ∀ other, other ≠ file → after.debugDataOf? other = library.debugDataOf? other
  rest : after.bare = library.bare

theorem Contained.refl (library : Library) (file : ObjectFileId) : Contained library library file :=
  ⟨rfl, fun _ => rfl, fun _ _ => rfl, rfl⟩

namespace Logging

variable {library : Library} {file : ObjectFileId} {raised : Raised}

theorem uninstall_refused (refused : ((uninstall file).apply library).1 = .error raised) :
    ((uninstall file).apply library).2 = library := by
  rw [apply_uninstall] at refused ⊢
  cases installed : library.isInstalled file with
  | false => rfl
  | true =>
    cases entry : library.debugDataOf? file with
    | none => rfl
    | some data =>
      cases attached : library.isAttached file with
      | false => rfl
      | true =>
        rw [installed, entry, attached] at refused
        cases refused

theorem install_stranded (strands : library.Strands file) :
    ∃ base, library.tableOf? file = some base ∧
      (install file).apply library =
        (.error (.fault (.assertion (.notAttached (library.debugName file)))),
          library.remember file base) := by
  obtain ⟨base, active⟩ := Option.isSome_iff_exists.mp strands.active
  refine ⟨base, active, ?_⟩
  rw [apply_install, library.isInstalled_of_no_entry strands.clean, active, strands.detached]
  rfl

theorem install_refused (refused : ((install file).apply library).1 = .error raised)
    (kept : ¬library.Strands file) : ((install file).apply library).2 = library := by
  rw [apply_install] at refused ⊢
  cases installed : library.isInstalled file with
  | true => rfl
  | false =>
    cases active : library.tableOf? file with
    | none => rfl
    | some base =>
      cases attached : library.isAttached file with
      | true =>
        rw [installed, active, attached] at refused
        cases refused
      | false =>
        have clean : library.debugDataOf? file = none := by
          rw [Library.isInstalled_eq, active] at installed
          simpa using installed
        exact absurd ⟨attached, by rw [active]; rfl, clean⟩ kept

theorem install_contained (refused : ((install file).apply library).1 = .error raised) :
    Contained library ((install file).apply library).2 file := by
  by_cases strands : library.Strands file
  · obtain ⟨base, active, applied⟩ := install_stranded strands
    rw [applied]
    refine ⟨rfl, fun _ => rfl, fun other different => ?_, library.bare_remember file base⟩
    rw [Library.debugDataOf?_remember, if_neg different]
  · rw [install_refused refused strands]
    exact Contained.refl library file

theorem install_refused_iff (refused : ((install file).apply library).1 = .error raised) :
    ((install file).apply library).2 = library ↔ ¬library.Strands file := by
  refine ⟨fun unchanged strands => ?_, install_refused refused⟩
  obtain ⟨base, _, applied⟩ := install_stranded strands
  have same : library.remember file base = library := by
    rw [applied] at unchanged
    exact unchanged
  have entry := library.debugDataOf?_remember file file base
  rw [same, strands.clean, if_pos rfl] at entry
  cases entry

end Logging

/-! ### The statement about runs -/

/-- At every moment of every run, whatever the object file: taking logging off
and setting a table change nothing when they are refused. A refused install
changes nothing unless the file has an active table, no entry, and can no longer
be given a table; then its entry is all that is new. -/
theorem Reachable.refusal_contained {moment : Moment} (reachable : Reachable .free moment)
    (file : ObjectFileId) (raised : Raised) :
    (((Logging.uninstall file).apply moment.library).1 = .error raised →
      ((Logging.uninstall file).apply moment.library).2 = moment.library) ∧
    (∀ table, ((Logging.setTable file table).apply moment.library).1 = .error raised →
      ((Logging.setTable file table).apply moment.library).2 = moment.library) ∧
    (((Logging.install file).apply moment.library).1 = .error raised →
      (((Logging.install file).apply moment.library).2 = moment.library ↔
        ¬moment.library.Strands file) ∧
      Contained moment.library ((Logging.install file).apply moment.library).2 file) := by
  have layer := reachable.begun_free.sound.layer
  exact ⟨Logging.uninstall_refused, fun _ => layer.setTable_refused, fun refused =>
    ⟨Logging.install_refused_iff refused, Logging.install_contained refused⟩⟩

/-- One object file was given a table and then removed from its space. -/
def Moment.removed : Moment :=
  let made := (Moment.initial.start (.createSpace none)).start (.newReaderTable .vacant)
  let added := made.start (.addObjectFile { index := 0 } "libgone.so" none)
  (added.start (.setTable { index := 0 } (.reader { index := 0 }))).start
    (.removeObjectFile { index := 0 } { index := 0 })

theorem reachable_removed {allowed : Operation → Prop}
    (permitted : ∀ operation : Operation, operation.Gated → allowed operation) :
    Reachable (.only allowed) Moment.removed := by
  have may : ∀ {moment : Moment} {operation : Operation}, operation.Gated →
      Rules.only allowed moment (.started operation) := fun gated =>
    Rules.only_started (permitted _ gated)
  have made := Reachable.start (.newReaderTable .vacant)
    (.start (.createSpace none) .initial trivial (may trivial)) (fun _ found => by cases found)
    (may trivial)
  have added := Reachable.start (.addObjectFile { index := 0 } "libgone.so" none) made trivial
    (may trivial)
  have set := Reachable.start (.setTable { index := 0 } (.reader { index := 0 })) added
    Nat.zero_lt_one (may trivial)
  exact .start (.removeObjectFile { index := 0 } { index := 0 }) set trivial (may trivial)

theorem refusal_contained_removed :
    Moment.removed.library.Strands { index := 0 } ∧
    Contained Moment.removed.library
      ((Logging.install { index := 0 }).apply Moment.removed.library).2 { index := 0 } := by
  have refused := (reachable_removed fun _ _ => trivial).refusal_contained { index := 0 }
    (.fault (.assertion (.notAttached (Moment.removed.library.debugName { index := 0 }))))
  exact ⟨⟨rfl, rfl, rfl⟩, (refused.2.2 rfl).2⟩

/-- An install on the removed file is refused, and the side table has an entry
that it did not have. -/
theorem install_refused_leaves_entry :
    Reachable .free Moment.removed ∧
    ((Logging.install { index := 0 }).apply Moment.removed.library).1 =
      .error (.fault (.assertion
        (.notAttached (Moment.removed.library.debugName { index := 0 })))) ∧
    Moment.removed.library.debugDataOf? { index := 0 } = none ∧
    ((Logging.install { index := 0 }).apply Moment.removed.library).2.debugDataOf? { index := 0 } =
      some { base := .reader { index := 0 }, shadow := .shadow { index := 0 } } :=
  ⟨reachable_removed fun _ _ => trivial, rfl, rfl, rfl⟩

end ReaderTrace
