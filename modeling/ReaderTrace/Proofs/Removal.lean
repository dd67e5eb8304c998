import ReaderTrace.Proofs.Reconciliation

/-!
What a removed object file leaves in the side table.

The library lets go of an object file before it tells any other listener. Until
all of them have been told the file can still be given a table, and with the
debug setting on that makes a new entry; nothing clears it afterwards. A removal
that ends normally therefore leaves no entry unless a table was set for the file
while its destruction was announced.
-/

namespace ReaderTrace

open Routine

/-- An object file that exists and can no longer be given a table. -/
def Library.Detached (library : Library) (file : ObjectFileId) : Prop :=
  file.index < library.objectFiles.length ∧ library.isAttached file = false

theorem Library.Detached.gone {library : Library} {file : ObjectFileId}
    (detached : library.Detached file) (registered : Registered library) : library.Gone file := by
  refine ⟨detached.1, fun listed => ?_⟩
  have attached := registered.isAttached_of_lists listed
  rw [detached.2] at attached
  cases attached

variable {license : Operation → Prop} {world after later : World} {file : ObjectFileId}

/-! ### What happens to an object file that is listed nowhere -/

section Detached

variable {library rewritten : Library} {settles : Prop}

theorem Library.Detached.modifyObjectFile (detached : library.Detached file) (other : ObjectFileId)
    {change : ObjectFile → ObjectFile}
    (kept : ∀ record, record.attached = false → (change record).attached = false) :
    (library.modifyObjectFile other change).Detached file := by
  refine ⟨Nat.lt_of_lt_of_eq detached.1 (List.length_modify _ _ _).symm, ?_⟩
  have attachedEq := detached.2
  unfold Library.isAttached at attachedEq ⊢
  rw [Library.objectFile?_modifyObjectFile]
  split
  · next same =>
    subst same
    cases found : library.objectFile? file with
    | none => rfl
    | some record =>
      rw [found] at attachedEq
      exact kept record attachedEq
  · exact attachedEq

/-- A single edit gives no table to a file that can no longer be given one. -/
theorem Edited.detached (edited : Edited library rewritten) (detached : library.Detached file) :
    rewritten.Detached file ∧ rewritten.tableOf? file = library.tableOf? file := by
  cases edited with
  | fileAdded space name quick opened =>
    refine ⟨⟨?_, ?_⟩, ProgramSpace.tableOf?_withFile library space name quick file⟩
    · exact Nat.lt_of_lt_of_le detached.1 (List.prefix_append _ _).length_le
    · rw [ProgramSpace.isAttached_withFile_of_lt library space name quick detached.1]
      exact detached.2
  | fileDetached other =>
    refine ⟨detached.modifyObjectFile other fun _ _ => rfl, ?_⟩
    apply Library.tableOf?_of_kept
    exact fun _ => rfl
  | symbolsRead other value =>
    refine ⟨detached.modifyObjectFile other fun _ kept => kept, ?_⟩
    apply Library.tableOf?_of_kept
    exact fun _ => rfl
  | tableAssigned other table attached =>
    refine ⟨detached.modifyObjectFile other fun _ kept => kept, ?_⟩
    apply library.tableOf?_withTable_other table
    intro same
    subst same
    rw [detached.2] at attached
    cases attached
  | _ => exact ⟨detached, rfl⟩

theorem Settling.detached (settling : Settling library rewritten)
    (detached : library.Detached file) :
    rewritten.Detached file ∧ rewritten.tableOf? file = library.tableOf? file := by
  cases settling with
  | created | closed | forgotten => exact ⟨detached, rfl⟩

theorem Rewritten.detached (path : Rewritten settles library rewritten)
    (detached : library.Detached file) :
    rewritten.Detached file ∧ rewritten.tableOf? file = library.tableOf? file := by
  induction path with
  | refl => exact ⟨detached, rfl⟩
  | tail _ step ih =>
    obtain ⟨still, tableEq⟩ := ih
    rcases step with edited | ⟨_, settling⟩
    · exact ⟨(edited.detached still).1, (edited.detached still).2.trans tableEq⟩
    · exact ⟨(settling.detached still).1, (settling.detached still).2.trans tableEq⟩

end Detached

/-- The entry of a file that is listed nowhere comes only from a table that is
set for it while it can still be given one. -/
theorem Relogging.clean (gated : ∀ operation, license operation → operation.Gated)
    (relogging : Relogging license world after) (sound : Sound world.library)
    (gone : world.library.Gone file) (clean : world.library.debugDataOf? file = none) :
    after.library.debugDataOf? file = none ∨
      world.library.isAttached file = true ∧
        ∃ table, after.milestones = world.milestones ++ [.tableSet file table] := by
  cases relogging with
  | released other otherGone =>
    left
    change ((Logging.release other).apply world.library).2.debugDataOf? file = none
    by_cases same : file = other
    · subst same
      rw [Logging.apply_release, world.library.isInstalled_of_no_entry clean]
      exact clean
    · rw [(SameAt.release same).entry]
      exact clean
  | installed other licensed => exact absurd (gated _ licensed) not_false
  | uninstalled other licensed => exact absurd (gated _ licensed) not_false
  | tableSet other table licensed known accepted =>
    obtain ⟨attached, afterEq⟩ := sound.layer.setTable_accepted accepted
    by_cases same : file = other
    · subst same
      exact Or.inr ⟨attached, table, World.milestones_note _ _⟩
    · left
      change ((Logging.setTable other table).apply world.library).2.debugDataOf? file = none
      rw [afterEq, (SameAt.reset table same).entry]
      exact clean
  | debugSet value =>
    left
    have notLive : file ∉ world.library.live := fun member =>
      gone.2 (sound.registered.mem_live_iff.mp member)
    change ((Logging.setDebug value).apply world.library).2.debugDataOf? file = none
    rw [((sound.reconciles value).others file notLive).2]
    exact clean

theorem Move.clean (gated : ∀ operation, license operation → operation.Gated)
    (move : Move license world after) (sound : Sound world.library)
    (gone : world.library.Gone file) (clean : world.library.debugDataOf? file = none) :
    after.library.debugDataOf? file = none ∨
      world.library.isAttached file = true ∧
        ∃ table, after.milestones = world.milestones ++ [.tableSet file table] := by
  rcases move.quiet_or_relogged with quiet | relogging
  · left
    rw [(quiet.same file).entry]
    exact clean
  · exact relogging.clean gated sound gone clean

theorem Move.milestones (move : Move license world after) :
    ∃ added, after.milestones = world.milestones ++ added := by
  rcases move.quiet_or_relogged with quiet | relogging
  · obtain ⟨added, appended, _⟩ := quiet.milestones
    exact ⟨added, appended⟩
  · cases relogging with
    | tableSet other table licensed known accepted => exact ⟨_, World.milestones_note _ _⟩
    | released | installed | uninstalled | debugSet => exact ⟨[], (List.append_nil _).symm⟩

theorem Path.detached (path : Path license world later) (detached : world.library.Detached file) :
    later.library.Detached file :=
  (Rewritten.detached (Path.rewritten path) detached).1

/-- Once a file can no longer be given a table, an entry that is missing stays
missing. -/
theorem Path.clean_of_detached (gated : ∀ operation, license operation → operation.Gated)
    (path : Path license world later) (sound : Sound world.library)
    (detached : world.library.Detached file) (clean : world.library.debugDataOf? file = none) :
    later.library.debugDataOf? file = none := by
  induction path with
  | refl => exact clean
  | tail earlier move ih =>
    have soundThere := Path.sound earlier sound
    have detachedThere := Path.detached earlier detached
    rcases move.clean gated soundThere (detachedThere.gone soundThere.registered) ih with
      stays | ⟨attached, _⟩
    · exact stays
    · rw [detachedThere.2] at attached
      cases attached

theorem Path.clean_or_tableSet (gated : ∀ operation, license operation → operation.Gated)
    (path : Path license world later) (sound : Sound world.library)
    (gone : world.library.Gone file) (clean : world.library.debugDataOf? file = none) :
    ∃ added, later.milestones = world.milestones ++ added ∧
      (later.library.debugDataOf? file = none ∨ ∃ table, .tableSet file table ∈ added) := by
  induction path with
  | refl => exact ⟨[], (List.append_nil _).symm, Or.inl clean⟩
  | tail earlier move ih =>
    obtain ⟨added, appended, before⟩ := ih
    obtain ⟨more, moreAppended⟩ := move.milestones
    refine ⟨added ++ more, by rw [moreAppended, appended, List.append_assoc], ?_⟩
    rcases before with stillClean | ⟨table, member⟩
    · have goneThere := (Path.progress earlier).gone file gone
      rcases move.clean gated (Path.sound earlier sound) goneThere stillClean with
        stays | ⟨_, table, setNow⟩
      · exact Or.inl stays
      · have moreEq := List.append_cancel_left (moreAppended.symm.trans setNow)
        refine Or.inr ⟨table, List.mem_append_right _ ?_⟩
        rw [moreEq]
        exact List.mem_singleton.mpr rfl
    · exact Or.inr ⟨table, List.mem_append_left _ member⟩

/-! ### The removal itself -/

theorem Sound.debugDataOf?_release {library : Library} (sound : Sound library)
    (attached : library.isAttached file = true) :
    ((Logging.release file).apply library).1 = .ok () ∧
      ((Logging.release file).apply library).2.debugDataOf? file = none := by
  rw [Logging.apply_release]
  cases entry : library.debugDataOf? file with
  | none =>
    rw [library.isInstalled_of_no_entry entry]
    exact ⟨rfl, entry⟩
  | some data =>
    have installed : library.isInstalled file = true := by
      rw [Library.isInstalled_eq, sound.layer.isSome_tableOf? entry, entry]
      rfl
    rw [if_pos installed, Logging.apply_uninstall, if_pos installed, entry, attached]
    refine ⟨rfl, ?_⟩
    change (library.unlogged file data.base).debugDataOf? file = none
    rw [Library.debugDataOf?_unlogged, if_pos rfl]

theorem detached_detach {library : Library} (known : file.index < library.objectFiles.length) :
    ((Edit.detach file).apply library).2.Detached file := by
  change (library.modifyObjectFile file _).Detached file
  refine ⟨Nat.lt_of_lt_of_eq known (List.length_modify _ _ _).symm, ?_⟩
  unfold Library.isAttached
  rw [Library.objectFile?_modifyObjectFile, if_pos rfl]
  cases library.objectFile? file <;> rfl

/-- How a removal that began in `world` ends normally: the file can no longer be
given a table, and it has no entry, now or later, unless a table was set for it
after its destruction was announced. -/
structure Released (world : World) (file : ObjectFileId) (finish : World) : Prop where
  detached : finish.library.Detached file
  entry : ∃ added, finish.milestones = world.milestones ++ .destroyed file :: added ∧
    ((∀ later, Path Operation.Gated finish later → later.library.debugDataOf? file = none) ∨
      ∃ table, .tableSet file table ∈ added)

theorem follows_announce {space : SpaceId} (begun : Begun Operation.Gated world)
    (member : file ∈ world.library.owned space) :
    Follows (course Operation.Gated) (Event.post destroyedEvent (.objectFile file))
      (world.withoutFile space file) (world.withoutFile space file) fun _ later =>
        Course Operation.Gated (world.withoutFile space file) later ∧
          ∃ added, later.milestones = world.milestones ++ .destroyed file :: added ∧
            (later.library.debugDataOf? file = none ∨ ∃ table, .tableSet file table ∈ added) := by
  have begunWithout : Begun Operation.Gated (world.withoutFile space file) :=
    begun.tail (Move.withoutFile member)
  have gone : (world.withoutFile space file).library.Gone file :=
    begun.sound.registered.gone_struck member
  have attached : (world.withoutFile space file).library.isAttached file = true :=
    begun.sound.registered.attached space file member
  obtain ⟨ok, clean⟩ := begunWithout.sound.debugDataOf?_release attached
  obtain ⟨functions, listenersEq⟩ := begunWithout.attentive.first
  refine follows_library ?_
  rw [listenersEq]
  -- The library's own listener comes first; from there on only clients are told.
  change Follows _ (Routine.edit (Logging.release file) >>= fun _ =>
    (functions.map Listener.client).forM (Event.notify (.objectFile file))) _ _ _
  refine follows_bind.mpr ?_
  have released : Course Operation.Gated (world.withoutFile space file)
      ((world.withoutFile space file).after (Logging.release file)) :=
    Course.of_relogging (.released file gone) begunWithout.sound
  change Afterwards _ _ _ _
    ((Logging.release file).apply (world.withoutFile space file).library).1 _
  rw [ok]
  have told : Honours (course Operation.Gated)
      ((functions.map Listener.client).forM (Event.notify (.objectFile file)))
      ((world.withoutFile space file).after (Logging.release file)) := by
    refine honours_forM fun listener listed later _ => ?_
    obtain ⟨function, _, rfl⟩ := List.mem_map.mp listed
    exact honours_notify_client function _ later
  refine Follows.since released (told.mono fun _ later reached => ?_)
  have soundReleased := Path.sound released.path begunWithout.sound
  have goneReleased := (Path.progress released.path).gone file gone
  refine ⟨Course.trans released reached, ?_⟩
  obtain ⟨added, appended, entry⟩ := Path.clean_or_tableSet (fun _ operation => operation)
    reached.path soundReleased goneReleased clean
  refine ⟨added, ?_, entry⟩
  have announced : (world.withoutFile space file).milestones =
      world.milestones ++ [.destroyed file] := World.milestones_note _ _
  rw [appended]
  change (world.withoutFile space file).milestones ++ added = _
  rw [announced, List.append_assoc]
  rfl

theorem follows_removal {space : SpaceId} (begun : Begun Operation.Gated world)
    (member : file ∈ world.library.owned space) :
    Follows (course Operation.Gated) (ProgramSpace.removeObjectFile space file) world world
      fun outcome finish => outcome = .ok () → Released world file finish := by
  have moved : Course Operation.Gated world (world.withoutFile space file) :=
    Course.of_move (Move.withoutFile member) fun _ registered => registered
  refine follows_bind.mpr ?_
  change Afterwards _ _ _ _ ((ProgramSpace.strike space file).apply world.library).1
    { world with library := ((ProgramSpace.strike space file).apply world.library).2 }
  rw [ProgramSpace.apply_strike_of_mem member]
  change Follows _ (Event.post destroyedEvent (.objectFile file) >>= fun _ =>
    Routine.edit (Edit.detach file)) world (world.withoutFile space file) _
  refine Follows.since moved (follows_bind.mpr ((follows_announce begun member).mono ?_))
  intro outcome later ⟨reached, added, appended, entry⟩
  cases outcome with
  | error raised => exact fun impossible => by cases impossible
  | ok _ =>
    have begunWithout : Begun Operation.Gated (world.withoutFile space file) :=
      begun.trans moved.path
    have begunLater : Begun Operation.Gated later := begunWithout.trans reached.path
    have gone : later.library.Gone file :=
      (Path.progress reached.path).gone file
        (begun.sound.registered.gone_struck member)
    have finished : Begun Operation.Gated (later.after (Edit.detach file)) :=
      begunLater.tail (.fileDetached file gone)
    intro _
    refine ⟨detached_detach gone.1, added, appended, ?_⟩
    rcases entry with clean | set
    · left
      intro further path
      exact Path.clean_of_detached (fun _ operation => operation) path finished.sound
        (detached_detach gone.1) clean
    · exact Or.inr set

/-! ### The statement about runs -/

/-- At every moment of a run without direct installs and uninstalls, removing a
listed object file, whatever the clients do that it calls: when the removal ends
normally the file has no entry, then and at every later point, unless a table
was set for it after its destruction was announced. -/
theorem Reachable.removal_releases {moment : Moment} (reachable : Reachable .gated moment)
    {during : World} (path : Path Operation.Gated moment.toWorld during) {space : SpaceId}
    {file : ObjectFileId} (member : file ∈ during.library.owned space) :
    Follows (course Operation.Gated) (ProgramSpace.removeObjectFile space file) during during
      fun outcome finish => outcome = .ok () → Released during file finish := by
  have begun : Begun Operation.Gated moment.toWorld :=
    reachable.begun fun _ operation permitted => permitted operation rfl
  exact follows_removal (begun.trans path) member

theorem removal_releases_logging :
    Follows (course Operation.Gated) (ProgramSpace.removeObjectFile { index := 0 } { index := 0 })
      Moment.logging.toWorld Moment.logging.toWorld fun outcome finish =>
        outcome = .ok () → Released Moment.logging.toWorld { index := 0 } finish :=
  (reachable_logging fun _ gated => gated).removal_releases .refl (by decide)

/-- While the destruction of an object file is announced, a listener sets a
table for it. -/
def Moment.resurrected : Moment :=
  let made := (Moment.initial.start (.createSpace none)).start (.newReaderTable .vacant)
  let heard := made.start (.subscribe destroyedEvent { index := 0 })
  let added := (heard.start (.setDebug true)).start
    (.addObjectFile { index := 0 } "libgone.so" none)
  let announced := added.start (.removeObjectFile { index := 0 } { index := 0 })
  (announced.start (.setTable { index := 0 } (.reader { index := 0 }))).answer (.returned .absent)

/-- The removal ended normally, and the removed file is still logged. -/
theorem resurrected_installed :
    Reachable .gated Moment.resurrected ∧
    Happening.finished (.removeObjectFile { index := 0 } { index := 0 }) (.ok .nothing) ∈
      Moment.resurrected.history ∧
    Moment.resurrected.pending = [] ∧
    Moment.resurrected.library.Detached { index := 0 } ∧
    Moment.resurrected.library.isInstalled { index := 0 } = true ∧
    Moment.resurrected.library.debugDataOf? { index := 0 } =
      some { base := .reader { index := 0 }, shadow := .shadow { index := 0 } } := by
  have may : ∀ {moment : Moment} {operation : Operation}, operation.Gated →
      Rules.gated moment (.started operation) := Rules.only_started
  have made : Reachable .gated _ :=
    .start (.newReaderTable .vacant) (.start (.createSpace none) .initial trivial (may trivial))
      (fun _ found => by cases found) (may trivial)
  have heard : Reachable .gated _ :=
    .start (.subscribe destroyedEvent { index := 0 }) made trivial (may trivial)
  have added : Reachable .gated _ :=
    .start (.addObjectFile { index := 0 } "libgone.so" none)
      (.start (.setDebug true) heard trivial (may trivial)) trivial (may trivial)
  have announced : Reachable .gated _ :=
    .start (.removeObjectFile { index := 0 } { index := 0 }) added trivial (may trivial)
  have set : Reachable .gated _ :=
    .start (.setTable { index := 0 } (.reader { index := 0 })) announced Nat.zero_lt_one
      (may trivial)
  have answered : Reachable .gated Moment.resurrected :=
    .resume (.returned .absent) set rfl fun _ same => by cases same
  refine ⟨answered, ?_, rfl, ⟨Nat.zero_lt_one, rfl⟩, rfl, rfl⟩
  exact List.mem_of_getLast? rfl

end ReaderTrace
