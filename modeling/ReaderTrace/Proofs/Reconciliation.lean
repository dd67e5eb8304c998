import ReaderTrace.Proofs.BaseTable

/-!
Changing the debug setting.

The walk over the live object files ends in every state that a run can reach,
and it calls no client. A file that is already in line with the setting is left
as it is, so a second walk does nothing; a walk back and forth returns every
live file to its base table.
-/

namespace ReaderTrace

/-! ### Files that the walk leaves alone -/

namespace Settled

variable {value : Bool} {library : Library} {file : ObjectFileId}

theorem of_isInstalled (installed : library.isInstalled file = value) :
    Settled value library file := by
  intro active
  rw [Library.isInstalled_eq, active, Bool.true_and] at installed
  exact installed

theorem reconciled_eq (settled : Settled value library file) :
    Logging.reconciled value library file = library := by
  unfold Logging.reconciled
  split
  · next base active clean =>
    have off := settled (by rw [active]; rfl)
    rw [clean] at off
    rw [← off]
    rfl
  · next base data active entry =>
    have on := settled (by rw [active]; rfl)
    rw [entry] at on
    rw [← on]
    rfl
  · rfl

theorem walked_eq {files : List ObjectFileId} (settled : ∀ file ∈ files, Settled value library file) :
    Logging.walked value library files = library := by
  induction files with
  | nil => rfl
  | cons head rest ih =>
    change Logging.walked value (Logging.reconciled value library head) rest = library
    rw [(settled head (List.mem_cons_self ..)).reconciled_eq]
    exact ih fun file member => settled file (List.mem_cons_of_mem _ member)

end Settled

namespace SameAt

variable {value : Bool} {library : Library} {file : ObjectFileId}

theorem walked_of_settled (settled : Settled value library file) (files : List ObjectFileId) :
    SameAt library (Logging.walked value library files) file := by
  induction files generalizing library with
  | nil => exact refl library file
  | cons head rest ih =>
    by_cases same : file = head
    · subst same
      change SameAt library (Logging.walked value (Logging.reconciled value library file) rest) file
      rw [settled.reconciled_eq]
      exact ih settled
    · have step : SameAt library (Logging.reconciled value library head) file :=
        SameAt.reconciled value same
      exact step.trans (ih (settled.congr step))

theorem walked_of_notMem {files : List ObjectFileId} (untouched : file ∉ files) :
    SameAt library (Logging.walked value library files) file := by
  induction files generalizing library with
  | nil => exact refl library file
  | cons head rest ih =>
    have different : file ≠ head := fun same => untouched (same ▸ List.mem_cons_self ..)
    have step : SameAt library (Logging.reconciled value library head) file :=
      SameAt.reconciled value different
    exact step.trans (ih fun member => untouched (List.mem_cons_of_mem _ member))

end SameAt

/-! ### What the bare library decides -/

namespace Library

variable {library after : Library}

theorem live_of_bare (same : after.bare = library.bare) : after.live = library.live := by
  have registryEq : after.bare.registry = library.bare.registry := by rw [same]
  have ownedEq : after.owned = library.owned := by
    funext space
    rw [← owned_bare, same, owned_bare]
  unfold live
  rw [ownedEq]
  exact congrArg (List.flatMap library.owned) registryEq

/-- Logging changes no more of an object file than its active table. -/
theorem objectFile?_of_bare (same : after.bare = library.bare) {file : ObjectFileId}
    (tableEq : after.tableOf? file = library.tableOf? file) :
    after.objectFile? file = library.objectFile? file := by
  have bareEq : (after.objectFile? file).map ObjectFile.bare =
      (library.objectFile? file).map ObjectFile.bare := by
    rw [← objectFile?_bare, same, objectFile?_bare]
  unfold tableOf? at tableEq
  cases found : after.objectFile? file with
  | none =>
    rw [found] at bareEq
    exact (Option.map_eq_none_iff.mp bareEq.symm).symm
  | some record =>
    rw [found] at bareEq tableEq
    obtain ⟨other, otherFound, otherBare⟩ := Option.map_eq_some_iff.mp bareEq.symm
    rw [otherFound] at tableEq
    rw [otherFound]
    cases record
    cases other
    simp_all [ObjectFile.bare]

end Library

/-! ### The walk -/

/-- `after` is what changing the debug setting to `value` makes of `library`. -/
structure Reconciles (value : Bool) (library after : Library) : Prop where
  debug : after.debug = value
  installed : ∀ file ∈ after.live, (after.tableOf? file).isSome = true →
    (after.isInstalled file = true ↔ value = true)
  matching : ∀ file, library.isInstalled file = value → SameAt library after file
  base : ∀ file, after.baseOf? file = library.baseOf? file
  /-- The registry, the flags, the stream and the address book among it. -/
  rest : after.bare = library.bare
  others : ∀ file, file ∉ library.live →
    after.objectFile? file = library.objectFile? file ∧
      after.debugDataOf? file = library.debugDataOf? file

namespace Sound

variable {library : Library}

theorem reconciles (sound : Sound library) (value : Bool) :
    Reconciles value library ((Logging.setDebug value).apply library).2 := by
  have restEq := sound.bare_setDebug value
  have applied := sound.apply_setDebug value
  have same : ∀ file, SameAt { library with debug := value }
      ((Logging.setDebug value).apply library).2 file →
      SameAt library ((Logging.setDebug value).apply library).2 file :=
    fun file same => ⟨same.table, same.entry⟩
  refine ⟨?_, ?_, ?_, ?_, restEq, ?_⟩
  · rw [applied]
    exact debug_walked value _ _
  · intro file member active
    rw [Library.live_of_bare restEq] at member
    have settled : Settled value ((Logging.setDebug value).apply library).2 file := by
      rw [applied]
      exact Settled.walked_of_mem member
    rw [Library.isInstalled_eq, active, settled active, Bool.true_and]
  · intro file installed
    have settled : Settled value { library with debug := value } file :=
      Settled.of_isInstalled installed
    refine same file ?_
    rw [applied]
    exact SameAt.walked_of_settled settled library.live
  · intro file
    rw [applied]
    exact Logging.baseOf?_walked file value library.live fun _ member =>
      sound.isAttached_of_mem_live member
  · intro file notLive
    have kept : SameAt library ((Logging.setDebug value).apply library).2 file := by
      refine same file ?_
      rw [applied]
      exact SameAt.walked_of_notMem notLive
    exact ⟨Library.objectFile?_of_bare restEq kept.table, kept.entry⟩

theorem setDebug_again (sound : Sound library) (value : Bool)
    (soundAfter : Sound ((Logging.setDebug value).apply library).2) :
    (Logging.setDebug value).apply ((Logging.setDebug value).apply library).2 =
      (.ok (), ((Logging.setDebug value).apply library).2) := by
  have reconciles := sound.reconciles value
  have settled : ∀ file ∈ library.live,
      Settled value ((Logging.setDebug value).apply library).2 file := by
    intro file member
    rw [sound.apply_setDebug]
    exact Settled.walked_of_mem member
  rw [soundAfter.apply_setDebug, Library.live_of_bare reconciles.rest]
  generalize ((Logging.setDebug value).apply library).2 = after at reconciles settled ⊢
  have unchanged : { after with debug := value } = after := by
    cases after
    simp [← reconciles.debug]
  rw [unchanged, Settled.walked_eq settled]

/-- Turning the setting on and off again returns a live file to its base table. -/
theorem tableOf?_on_off (sound : Sound library)
    (soundOn : Sound ((Logging.setDebug true).apply library).2) {file : ObjectFileId}
    (live : file ∈ library.live) :
    ((Logging.setDebug false).apply ((Logging.setDebug true).apply library).2).2.tableOf? file =
      library.baseOf? file := by
  have on := sound.reconciles true
  have off := soundOn.reconciles false
  have liveOn : file ∈ ((Logging.setDebug true).apply library).2.live := by
    rw [Library.live_of_bare on.rest]
    exact live
  have clean := soundOn.debugDataOf?_setDebug_false liveOn
  rw [← on.base, ← off.base, Library.baseOf?_of_no_entry _ clean]

end Sound

/-! ### The statement about runs -/

theorem Moment.start_setDebug {moment : Moment} (sound : Sound moment.library) (value : Bool) :
    moment.start (.setDebug value) =
      { library := ((Logging.setDebug value).apply moment.library).2
        history := moment.history ++
          [.started (.setDebug value), .finished (.setDebug value) (.ok .nothing)]
        pending := moment.pending } := by
  change Moment.proceed (.setDebug value) moment.pending
    (Routine.bind (.done ((Logging.setDebug value).apply moment.library).1) fun _ =>
      .done (.ok .nothing))
    ((moment.toWorld.note (.started (.setDebug value))).after (Logging.setDebug value)) = _
  have ok : ((Logging.setDebug value).apply moment.library).1 = .ok () := by
    rw [sound.apply_setDebug]
  rw [ok]
  simp [Routine.bind, Moment.proceed, World.note, World.after]

/-- Whatever came before, changing the debug setting ends normally, calls
nobody, and brings every live object file in line; files that were in line
already, and files that are not live, are left alone. Doing it twice is doing it
once, and turning the setting on and off returns each live file to its base
table. -/
theorem Reachable.setDebug_reconciles {moment : Moment} (reachable : Reachable .free moment)
    (value : Bool) :
    (moment.start (.setDebug value)).history = moment.history ++
      [.started (.setDebug value), .finished (.setDebug value) (.ok .nothing)] ∧
    (moment.start (.setDebug value)).pending = moment.pending ∧
    Reconciles value moment.library (moment.start (.setDebug value)).library ∧
    ((moment.start (.setDebug value)).start (.setDebug value)).library =
      (moment.start (.setDebug value)).library ∧
    ∀ file ∈ moment.library.live,
      ((moment.start (.setDebug true)).start (.setDebug false)).library.tableOf? file =
        moment.library.baseOf? file := by
  have sound := reachable.begun_free.sound
  have soundAfter : ∀ setting, Sound ((Logging.setDebug setting).apply moment.library).2 :=
    fun setting => ⟨sound.registered.congr_bare (sound.bare_setDebug setting),
      sound.layer.setDebug sound.registered setting⟩
  have again := congrArg Prod.snd (sound.setDebug_again value (soundAfter value))
  rw [Moment.start_setDebug sound value, Moment.start_setDebug sound true,
    Moment.start_setDebug (soundAfter value), Moment.start_setDebug (soundAfter true)]
  refine ⟨rfl, rfl, sound.reconciles value, again, ?_⟩
  intro file live
  exact sound.tableOf?_on_off (soundAfter true) live

/-- Of two object files one has logging that a client put on it. The disposal of
their space has struck the other and waits for a listener. -/
def Moment.disposing : Moment :=
  let space : SpaceId := { index := 0 }
  let made := (Moment.initial.start (.createSpace none)).start (.newReaderTable .vacant)
  let added := (made.start (.addObjectFile space "a.out" none)).start
    (.addObjectFile space "b.out" none)
  let logged := (added.start (.setTable { index := 0 } (.reader { index := 0 }))).start
    (.install { index := 0 })
  (logged.start (.subscribe destroyedEvent { index := 0 })).start (.dispose space)

theorem setDebug_reconciles_disposing :
    Moment.disposing.pending.length = 1 ∧
    Moment.disposing.library.isDisposed { index := 0 } = true ∧
    (Moment.disposing.start (.setDebug false)).library.tableOf? { index := 0 } =
      some (.reader { index := 0 }) ∧
    Reconciles false Moment.disposing.library
      (Moment.disposing.start (.setDebug false)).library := by
  have may : ∀ {moment : Moment} {operation : Operation},
      Rules.free moment (.started operation) := fun _ _ => trivial
  have made : Reachable .free _ :=
    .start (.newReaderTable .vacant) (.start (.createSpace none) .initial trivial may)
      (fun _ found => by cases found) may
  have added : Reachable .free _ :=
    .start (.addObjectFile { index := 0 } "b.out" none)
      (.start (.addObjectFile { index := 0 } "a.out" none) made trivial may) trivial may
  have logged : Reachable .free _ :=
    .start (.install { index := 0 })
      (.start (.setTable { index := 0 } (.reader { index := 0 })) added Nat.zero_lt_one may)
      trivial may
  have disposing : Reachable .free Moment.disposing :=
    .start (.dispose { index := 0 })
      (.start (.subscribe destroyedEvent { index := 0 }) logged trivial may) trivial may
  have facts := disposing.setDebug_reconciles false
  exact ⟨rfl, rfl, rfl, facts.2.2.1⟩

end ReaderTrace
