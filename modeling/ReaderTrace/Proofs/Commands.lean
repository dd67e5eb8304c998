import ReaderTrace.Proofs.Outcome
import ReaderTrace.Proofs.Settings

/-!
Commands that change the debug setting.

A command reads a text, and the environment has one to be read. What cannot be read
is refused before anything changes. What can be read is adopted, and this cannot
fail half way: the walk over the live object files comes to its end in every state
that a run can reach.
-/

namespace ReaderTrace

/-! ### Adopting what was read -/

/-- Changes the debug setting to the value that was read, or raises the fault of the
reading. -/
def Logging.adopt : Except Fault Bool → Edit Unit
  | .error fault => Edit.fail fault
  | .ok value => setDebug value

theorem Logging.applyEnvironment_eq (environment : Environment) :
    applyEnvironment environment =
      adopt ((Configuration.load environment).map Configuration.debug) := by
  unfold applyEnvironment
  cases Configuration.load environment <;> rfl

namespace Moment

/-- The operation changes the debug setting to the value that was read, with all that
this does to live object files; where none was read, it raises the fault of the
reading and changes nothing. -/
structure AllOrNothing (moment : Moment) (operation : Operation)
    (reading : Except Fault Bool) : Prop where
  raises : (∃ raised, (moment.start operation).history.getLast? =
    some (.finished operation (.error raised))) ↔ ∃ fault, reading = .error fault
  refused : ∀ fault, reading = .error fault →
    moment.Yields operation (.error (.fault fault)) moment.library []
  adopted : ∀ value, reading = .ok value →
    moment.Yields operation (.ok .nothing) (moment.start (.setDebug value)).library [] ∧
      Reconciles value moment.library (moment.start (.setDebug value)).library

variable {moment : Moment} {operation : Operation}

theorem Yields.getLast? {outcome : Except Raised Result} {after : Library}
    {reached : List Milestone} (yields : moment.Yields operation outcome after reached) :
    (moment.start operation).history.getLast? = some (.finished operation outcome) := by
  have ends : (moment.start operation).history =
      (moment.history ++ .started operation :: reached.map .reached) ++
        [.finished operation outcome] := by
    rw [yields]
    simp
  rw [ends, List.getLast?_concat]

theorem allOrNothing_of_adopt (sound : Sound moment.library) {reading : Except Fault Bool}
    (performs : operation.routine =
      (Routine.edit (Logging.adopt reading)).bind fun _ => .done (.ok .nothing)) :
    moment.AllOrNothing operation reading := by
  cases reading with
  | error fault =>
    have refuses : moment.Yields operation (.error (.fault fault)) moment.library [] :=
      yields_of_raised performs rfl
    refine ⟨⟨fun _ => ⟨fault, rfl⟩, fun _ => ⟨_, refuses.getLast?⟩⟩, ?_, nofun⟩
    rintro _ ⟨⟩
    exact refuses
  | ok value =>
    have ended : ((Logging.setDebug value).apply moment.library).1 = .ok () := by
      rw [sound.apply_setDebug]
    have started : (moment.start (.setDebug value)).library =
        ((Logging.setDebug value).apply moment.library).2 := by
      rw [start_setDebug sound]
    have adopts : moment.Yields operation (.ok .nothing)
        ((Logging.setDebug value).apply moment.library).2 [] :=
      yields_of_edit performs (Prod.ext ended rfl)
    refine ⟨⟨?_, nofun⟩, nofun, ?_⟩
    · rintro ⟨raised, last⟩
      rw [adopts.getLast?] at last
      cases last
    · rintro _ ⟨⟩
      rw [started]
      exact ⟨adopts, sound.reconciles value⟩

end Moment

/-! ### The statement about runs -/

/-- Whatever came before, a command with a text that is no setting raises the fault
that shows this text and changes nothing; any other command does what changing the
debug setting to the value of its text does. The same is true of a configuration that
is read from an environment and then applied, by any check that does as documented. -/
theorem Reachable.commands_all_or_nothing {moment : Moment}
    (reachable : Reachable .free moment) :
    (∀ text, moment.AllOrNothing (.setCommand text)
      (match Setting.readBoolean? text with
        | some value => .ok value
        | none => .error (.invalidSetting "debug symfile" (.text text)))) ∧
    (∀ configuration : Configuration,
      moment.AllOrNothing (.applyConfiguration configuration) (.ok configuration.debug)) ∧
    ∀ check : EnvironmentCheck, check.Documented → ∀ environment,
      moment.AllOrNothing (.applyEnvironment environment)
        ((Configuration.loadWith check environment).map Configuration.debug) := by
  have sound := reachable.begun_free.sound
  refine ⟨?_, ?_, ?_⟩
  · intro text
    exact Moment.allOrNothing_of_adopt sound rfl
  · intro configuration
    exact Moment.allOrNothing_of_adopt sound rfl
  · intro check documented environment
    have same : Configuration.loadWith check environment = Configuration.load environment := by
      rw [Configuration.load, Configuration.loadWith, Configuration.loadWith,
        Configuration.check_eq documented]
    rw [same]
    apply Moment.allOrNothing_of_adopt sound
    rw [← Logging.applyEnvironment_eq]
    rfl

/-- Logging is on. A command that says neither on nor off leaves it so; a shortened
spelling and a blank variable both turn it off, which takes the shadow off the object
file. -/
theorem commands_all_or_nothing_logging :
    EnvironmentSchema.check.Documented ∧
    Moment.logging.Yields (.setCommand " maybe")
      (.error (.fault (.invalidSetting "debug symfile" (.text " maybe"))))
      Moment.logging.library [] ∧
    Moment.logging.library.isInstalled { index := 0 } = true ∧
    Reconciles false Moment.logging.library
      (Moment.logging.start (.setCommand " of ")).library ∧
    (Moment.logging.start (.setCommand " of ")).library.isInstalled { index := 0 } = false ∧
    (Moment.logging.start
        (.applyEnvironment [(Configuration.variableName, .text " ")])).library =
      (Moment.logging.start (.setDebug false)).library := by
  have logging : Reachable .free Moment.logging := reachable_logging fun _ _ => trivial
  have documented := EnvironmentSchema.documented_check
  obtain ⟨commands, _, environments⟩ := logging.commands_all_or_nothing
  have blank := environments _ documented [(Configuration.variableName, .text " ")]
  refine ⟨documented, (commands " maybe").refused _ rfl, rfl, ?_, rfl, ?_⟩
  · exact ((commands " of ").adopted false rfl).2
  · have yields := (blank.adopted false rfl).1
    rw [yields]

end ReaderTrace
