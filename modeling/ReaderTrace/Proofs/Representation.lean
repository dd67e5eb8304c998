import ReaderTrace.Proofs.Inventory
import ReaderTrace.Proofs.Origin

/-!
What the logging holds for a live object file, at every moment of every run.

The side table and the active tables never disagree about an object file that
some program space lists. An entry names the active table of its file, a shadow
that was built for that file from the table under it and that belongs to no
other entry.
-/

namespace ReaderTrace

/-- The table `shadow` was built as the shadow of `base` for `host` at an earlier
point of the run. -/
def World.Shadows (world : World) (shadow base : TableRef) (host : ObjectFileId) : Prop :=
  ∃ id past, shadow = .shadow id ∧ Begun (fun _ => True) past ∧ Path (fun _ => True) past world ∧
    past.library.HasTable base ∧
    world.library.shadows[id.index]? = some (Shadow.build past.library base host)

/-- The entry `data` of `file` says what the library holds. -/
structure Represents (world : World) (file : ObjectFileId) (data : DebugData) : Prop where
  active : world.library.tableOf? file = some data.shadow
  built : world.Shadows data.shadow data.base file
  distinct : data.shadow ≠ data.base
  unshared : ∀ other otherData, world.library.debugDataOf? other = some otherData →
    otherData.shadow = data.shadow → other = file

/-- A shadow is younger than the table that it stands in for. -/
theorem Wraps.distinct {library : Library} {file : ObjectFileId} {data : DebugData}
    (wraps : Wraps library file data) : data.shadow ≠ data.base := by
  obtain ⟨id, shadowEq, _, older⟩ := wraps.shadow
  intro same
  exact Nat.lt_irrefl _ (older id (same.symm.trans shadowEq))

theorem Wraps.host_unique {library : Library} {file other : ObjectFileId}
    {data otherData : DebugData} (first : Wraps library file data)
    (second : Wraps library other otherData) (same : otherData.shadow = data.shadow) :
    other = file := by
  obtain ⟨id, shadowEq, ⟨built, found, _, hostEq⟩, _⟩ := first.shadow
  obtain ⟨otherId, otherEq, ⟨otherBuilt, otherFound, _, otherHostEq⟩, _⟩ := second.shadow
  have idEq : otherId = id := TableRef.shadow.inj ((otherEq.symm.trans same).trans shadowEq)
  subst otherId
  have builtEq : otherBuilt = built := Option.some.inj (otherFound.symm.trans found)
  rw [← hostEq, ← otherHostEq, builtEq]

theorem Begun.shadows {world : World} (begun : Begun (fun _ => True) world) {file : ObjectFileId}
    {data : DebugData} (wraps : Wraps world.library file data) :
    world.Shadows data.shadow data.base file := by
  obtain ⟨id, shadowEq, ⟨built, found, baseEq, hostEq⟩, _⟩ := wraps.shadow
  obtain ⟨past, reached, path, known, builtEq⟩ :=
    Begun.origin begun found
  rw [baseEq] at known
  rw [baseEq, hostEq] at builtEq
  rw [builtEq] at found
  exact ⟨id, past, shadowEq, reached, path, known, found⟩

theorem Begun.represents {world : World} (begun : Begun (fun _ => True) world)
    {file : ObjectFileId} {data : DebugData}
    (entry : world.library.debugDataOf? file = some data)
    (attached : world.library.isAttached file = true) : Represents world file data := by
  have layer := begun.sound.layer
  have wraps := layer.wraps file data entry
  refine ⟨wraps.active attached, Begun.shadows begun wraps, wraps.distinct, ?_⟩
  intro other otherData otherEntry sameShadow
  exact wraps.host_unique (layer.wraps other otherData otherEntry) sameShadow

theorem Reachable.begun_free {rules : Rules} {moment : Moment}
    (reachable : Reachable rules moment) : Begun (fun _ => True) moment.toWorld :=
  reachable.begun fun _ _ _ => trivial

/-- A live object file is installed when the side table has an entry for it,
and the entry represents what the library holds. -/
theorem Reachable.installed_iff_represented {moment : Moment}
    (reachable : Reachable .free moment) {file : ObjectFileId}
    (live : moment.library.Lists file) :
    (moment.library.isInstalled file = true ↔
      ∃ data, moment.library.debugDataOf? file = some data) ∧
    ∀ data, moment.library.debugDataOf? file = some data →
      Represents moment.toWorld file data := by
  have begun := reachable.begun_free
  have sound := begun.sound
  constructor
  · rw [sound.layer.isInstalled_eq_has]
    exact Option.isSome_iff_exists
  · intro data entry
    exact Begun.represents begun entry (sound.registered.isAttached_of_lists live)

/-! ### A short run with logging -/

def ReaderTable.vacant : ReaderTable :=
  { functions := fun _ => { own := none, behind := none }
    probes := { own := none, behind := none } }

/-- One object file is given a table, and the debug setting is turned on. -/
def Moment.logging : Moment :=
  ((((Moment.initial.start (.createSpace none)).start (.newReaderTable .vacant)).start
    (.addObjectFile { index := 0 } "a.out" none)).start
      (.setTable { index := 0 } (.reader { index := 0 }))).start (.setDebug true)

/-- The innermost call, if one waits, is answered. -/
def Moment.answer (moment : Moment) (reply : Reply) : Moment :=
  match moment.pending with
  | [] => moment
  | frame :: rest => moment.resume frame rest reply

theorem Rules.only_started {allowed : Operation → Prop} {moment : Moment} {operation : Operation}
    (permitted : allowed operation) : Rules.only allowed moment (.started operation) := by
  intro started same
  cases same
  exact permitted

theorem reachable_logging {allowed : Operation → Prop}
    (permitted : ∀ operation : Operation, operation.Gated → allowed operation) :
    Reachable (.only allowed) Moment.logging := by
  have may : ∀ {moment : Moment} {operation : Operation}, operation.Gated →
      Rules.only allowed moment (.started operation) := fun gated =>
    Rules.only_started (permitted _ gated)
  have created := Reachable.start (.createSpace none) .initial trivial (may trivial)
  have made := Reachable.start (.newReaderTable .vacant) created
    (fun _ found => by cases found) (may trivial)
  have added := Reachable.start (.addObjectFile { index := 0 } "a.out" none) made trivial
    (may trivial)
  have set := Reachable.start (.setTable { index := 0 } (.reader { index := 0 })) added
    Nat.zero_lt_one (may trivial)
  exact Reachable.start (.setDebug true) set trivial (may trivial)

theorem lists_logging : Moment.logging.library.Lists { index := 0 } :=
  ⟨{ index := 0 }, by decide⟩

theorem entry_logging :
    Moment.logging.library.debugDataOf? { index := 0 } =
      some { base := .reader { index := 0 }, shadow := .shadow { index := 0 } } := by
  rfl

theorem installed_iff_represented_logging :
    (Moment.logging.library.isInstalled { index := 0 } = true ↔
      ∃ data, Moment.logging.library.debugDataOf? { index := 0 } = some data) ∧
    Represents Moment.logging.toWorld { index := 0 }
      { base := .reader { index := 0 }, shadow := .shadow { index := 0 } } := by
  have facts := (reachable_logging fun _ _ => trivial).installed_iff_represented lists_logging
  exact ⟨facts.1, facts.2 _ entry_logging⟩

end ReaderTrace
