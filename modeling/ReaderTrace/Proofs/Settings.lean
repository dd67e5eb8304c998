import Mathlib.Algebra.GroupWithZero.Nat
import Mathlib.Data.List.Infix
import Mathlib.Data.List.TakeWhile
import ReaderTrace.Setting.Environment

/-!
Which texts a boolean setting takes, and what they mean by each of the two routes.

A text is read without the blanks at its ends. What is left means on if a spelling
of on begins with it, and off if only a spelling of off does. The environment takes
the same texts as a command and refuses the same texts with the same error, except
that blank text means off there.
-/

namespace ReaderTrace

/-! ### Trimming -/

namespace Blank

/-- The text holds blanks only. -/
def Void (text : List Char) : Prop :=
  ∀ char ∈ text, isBlank char = true

instance (text : List Char) : Decidable (Void text) :=
  decidable_of_iff (text.all isBlank = true) List.all_eq_true

/-- Around `core` the text has blanks only, and `core` neither begins nor ends with
one. -/
structure Trims (text core : List Char) : Prop where
  around : ∃ before after, text = before ++ core ++ after ∧ Void before ∧ Void after
  first : ∀ char, core.head? = some char → isBlank char = false
  last : ∀ char, core.getLast? = some char → isBlank char = false

variable {text core before after : List Char}

theorem Void.append (first : Void before) (second : Void after) : Void (before ++ after) := by
  intro char member
  obtain inFirst | inSecond := List.mem_append.mp member
  · exact first char inFirst
  · exact second char inSecond

theorem Void.reverse (void : Void text) : Void text.reverse :=
  fun char member => void char (List.mem_reverse.mp member)

private theorem void_takeWhile (text : List Char) : Void (text.takeWhile isBlank) :=
  fun _ member => List.mem_takeWhile_imp member

private theorem dropWhile_of_first
    (first : ∀ char, core.head? = some char → isBlank char = false) :
    core.dropWhile isBlank = core := by
  cases core with
  | nil => rfl
  | cons char rest =>
    have shown := first char rfl
    rw [List.dropWhile_cons_of_neg (by simp [shown])]

private theorem first_dropWhile (text : List Char) :
    ∀ char, (text.dropWhile isBlank).head? = some char → isBlank char = false := by
  intro char found
  have shown := List.head?_dropWhile_not isBlank text
  rw [found] at shown
  exact shown

theorem Trims.eq_trim (trims : Trims text core) : core = trim text := by
  obtain ⟨⟨before, after, rfl, voidBefore, voidAfter⟩, first, last⟩ := trims
  cases core with
  | nil =>
    have void : Void (before ++ [] ++ after) := by
      simpa using voidBefore.append voidAfter
    rw [trim, List.dropWhile_eq_nil_iff.mpr void]
    rfl
  | cons char rest =>
    have dropped : (before ++ (char :: rest) ++ after).dropWhile isBlank
        = (char :: rest) ++ after := by
      rw [List.append_assoc, List.dropWhile_append_of_pos voidBefore, List.cons_append,
        List.dropWhile_cons_of_neg (by simp [first char rfl])]
    have kept : (char :: rest).reverse.dropWhile isBlank = (char :: rest).reverse :=
      dropWhile_of_first fun found => by
        rw [List.head?_reverse]
        exact last found
    rw [trim, dropped, List.reverse_append, List.dropWhile_append_of_pos voidAfter.reverse,
      kept, List.reverse_reverse]

theorem trims_trim (text : List Char) : Trims text (trim text) := by
  -- `kept` is the text from its first character that is not blank.
  let kept := text.dropWhile isBlank
  have start : text = text.takeWhile isBlank ++ kept := (List.takeWhile_append_dropWhile ..).symm
  have finish : kept = trim text ++ (kept.reverse.takeWhile isBlank).reverse := by
    rw [trim, ← List.reverse_append, List.takeWhile_append_dropWhile, List.reverse_reverse]
  refine ⟨⟨_, (kept.reverse.takeWhile isBlank).reverse, ?_, void_takeWhile text,
    (void_takeWhile _).reverse⟩, ?_, ?_⟩
  · rw [List.append_assoc, ← finish]
    exact start
  · intro char found
    refine first_dropWhile text char ?_
    change kept.head? = some char
    rw [finish, List.head?_append, found]
    rfl
  · intro char found
    refine first_dropWhile kept.reverse char ?_
    simpa [trim, List.getLast?_reverse] using found

/-- A text has one core, and trimming finds it. -/
theorem trims_iff : Trims text core ↔ core = trim text := by
  constructor
  · exact Trims.eq_trim
  · rintro rfl
    exact trims_trim text

theorem Trims.pad (trims : Trims text core) (voidBefore : Void before)
    (voidAfter : Void after) : Trims (before ++ text ++ after) core := by
  obtain ⟨⟨before', after', rfl, voidBefore', voidAfter'⟩, first, last⟩ := trims
  refine ⟨⟨before ++ before', after' ++ after, by simp, ?_, ?_⟩, first, last⟩
  · exact voidBefore.append voidBefore'
  · exact voidAfter'.append voidAfter

theorem trim_pad (text : List Char) (voidBefore : Void before) (voidAfter : Void after) :
    trim (before ++ text ++ after) = trim text :=
  ((trims_trim text).pad voidBefore voidAfter).eq_trim.symm

theorem trim_eq_nil_iff : trim text = [] ↔ Void text := by
  constructor
  · intro empty
    obtain ⟨before, after, split, voidBefore, voidAfter⟩ := (trims_trim text).around
    rw [split, empty, List.append_nil]
    exact voidBefore.append voidAfter
  · intro void
    have trims : Trims text [] := ⟨⟨text, [], by simp, void, by simp [Void]⟩, by simp, by simp⟩
    exact trims.eq_trim.symm

end Blank

/-! ### The grammar -/

namespace Setting

def onSpellings : List String :=
  ["on", "1", "yes", "enable"]

def offSpellings : List String :=
  ["off", "0", "no", "disable"]

/-- A spelling begins with the text, which may be empty. -/
def Begins (core : List Char) (spellings : List String) : Prop :=
  ∃ spelling ∈ spellings, core <+: spelling.toList

instance (core : List Char) (spellings : List String) : Decidable (Begins core spellings) :=
  inferInstanceAs (Decidable (∃ spelling ∈ spellings, core <+: spelling.toList))

/-- The number of 16-bit units that encode the text. -/
def units (text : List Char) : Nat :=
  (text.map fun char => if char.toNat < 0x10000 then 1 else 2).sum

theorem length_le_units (text : List Char) : text.length ≤ units text := by
  induction text with
  | nil => exact Nat.le_refl 0
  | cons char rest ih =>
    simp only [units, List.map_cons, List.sum_cons, List.length_cons] at ih ⊢
    split <;> omega

/-- The first entry of a table that begins with the text decides. -/
def readFrom? (table : List (String × Bool)) (core : List Char) : Option Bool :=
  (table.find? fun spelling => core.isPrefixOf spelling.1.toList).map (·.2)

variable {core : List Char} {table other : List (String × Bool)}

private theorem of_readFrom? {value : Bool} (found : readFrom? table core = some value) :
    ∃ spelling, (spelling, value) ∈ table ∧ core <+: spelling.toList := by
  obtain ⟨⟨spelling, _⟩, first, rfl⟩ := Option.map_eq_some_iff.mp found
  refine ⟨spelling, List.mem_of_find?_eq_some first, ?_⟩
  have begins := List.find?_some first
  exact List.isPrefixOf_iff_prefix.mp begins

private theorem readFrom?_eq_none_iff :
    readFrom? table core = none ↔ ∀ entry ∈ table, ¬ core <+: entry.1.toList := by
  rw [readFrom?, Option.map_eq_none_iff, List.find?_eq_none]
  simp [List.isPrefixOf_iff_prefix]

/-- Where all entries that begin with the text have one value, their order does not
matter. -/
private theorem readFrom?_perm (same : other.Perm table)
    (agree : ∀ first second, first ∈ table → second ∈ table → core <+: first.1.toList →
      core <+: second.1.toList → first.2 = second.2) :
    readFrom? other core = readFrom? table core := by
  cases found : readFrom? table core with
  | none =>
    rw [readFrom?_eq_none_iff] at found ⊢
    exact fun entry member => found entry (same.mem_iff.mp member)
  | some value =>
    obtain ⟨spelling, member, begins⟩ := of_readFrom? found
    cases again : readFrom? other core with
    | none =>
      exact absurd begins (readFrom?_eq_none_iff.mp again _ (same.mem_iff.mpr member))
    | some value' =>
      obtain ⟨spelling', member', begins'⟩ := of_readFrom? again
      exact congrArg some (agree _ _ (same.mem_iff.mp member') member begins' begins)

theorem mem_spellings_iff {spelling : String} {value : Bool} :
    (spelling, value) ∈ spellings ↔
      spelling ∈ (if value then onSpellings else offSpellings) := by
  cases value <;> simp [spellings, onSpellings, offSpellings]

/-- The texts that begin a spelling, one by one. -/
def beginnings (spellings : List String) : List (List Char) :=
  spellings.flatMap fun spelling => spelling.toList.inits

theorem begins_iff {spellings : List String} :
    Begins core spellings ↔ core ∈ beginnings spellings := by
  simp [Begins, beginnings]

/-- The two groups share the empty text and `o`. -/
theorem begins_both_iff :
    Begins core onSpellings ∧ Begins core offSpellings ↔ core = [] ∨ core = ['o'] := by
  rw [begins_iff, begins_iff]
  constructor
  · rintro ⟨inOn, inOff⟩
    have shared : ∀ text ∈ beginnings onSpellings, text ∈ beginnings offSpellings →
        text = [] ∨ text = ['o'] := by decide
    exact shared core inOn inOff
  · rintro (rfl | rfl) <;> decide

/-- What begins a spelling is short and has no blank in it. -/
private theorem plain_of_begins (begins : Begins core onSpellings ∨ Begins core offSpellings) :
    units core ≤ 7 ∧ ∀ char ∈ core, Blank.isBlank char = false := by
  have plain : ∀ text ∈ beginnings onSpellings ++ beginnings offSpellings,
      units text ≤ 7 ∧ (text.all fun char => !Blank.isBlank char) = true := by decide
  rw [begins_iff, begins_iff] at begins
  have ⟨short, filled⟩ := plain core (List.mem_append.mpr begins)
  refine ⟨short, fun char member => ?_⟩
  exact (Bool.not_eq_true' _).mp (List.all_eq_true.mp filled char member)

private theorem readFrom?_group (group : List String) (value : Bool) :
    readFrom? (group.map fun spelling => (spelling, value)) core =
      if Begins core group then some value else none := by
  by_cases begins : Begins core group
  · rw [if_pos begins]
    cases found : readFrom? (group.map fun spelling => (spelling, value)) core with
    | none =>
      obtain ⟨spelling, member, shown⟩ := begins
      exact absurd shown
        (readFrom?_eq_none_iff.mp found _ (List.mem_map_of_mem member))
    | some value' =>
      obtain ⟨spelling, member, -⟩ := of_readFrom? found
      obtain ⟨_, -, same⟩ := List.mem_map.mp member
      rw [(Prod.mk.inj same).2]
  · rw [if_neg begins, readFrom?_eq_none_iff]
    intro entry member shown
    obtain ⟨spelling, listed, rfl⟩ := List.mem_map.mp member
    exact begins ⟨spelling, listed, shown⟩

/-- The table has the spellings of on first. -/
theorem readBoolean?_eq (text : String) :
    readBoolean? text =
      if Begins (Blank.trim text.toList) onSpellings then some true
      else if Begins (Blank.trim text.toList) offSpellings then some false
      else none := by
  have grouped : spellings = (onSpellings.map fun spelling => (spelling, true)) ++
      offSpellings.map fun spelling => (spelling, false) := rfl
  have inOrder : readBoolean? text =
      (readFrom? (onSpellings.map fun spelling => (spelling, true))
        (Blank.trim text.toList)).or
      (readFrom? (offSpellings.map fun spelling => (spelling, false))
        (Blank.trim text.toList)) := by
    rw [readBoolean?, readTrimmed?, grouped, List.find?_append, Option.map_or]
    rfl
  rw [inOrder, readFrom?_group, readFrom?_group]
  split <;> rfl

theorem readBoolean?_iff (text : String) :
    (readBoolean? text = some true ↔ Begins (Blank.trim text.toList) onSpellings) ∧
    (readBoolean? text = some false ↔ ¬ Begins (Blank.trim text.toList) onSpellings ∧
      Begins (Blank.trim text.toList) offSpellings) ∧
    (readBoolean? text = none ↔ ¬ Begins (Blank.trim text.toList) onSpellings ∧
      ¬ Begins (Blank.trim text.toList) offSpellings) := by
  rw [readBoolean?_eq]
  by_cases on : Begins (Blank.trim text.toList) onSpellings
  · simp [on]
  · by_cases off : Begins (Blank.trim text.toList) offSpellings <;> simp [on, off]

/-- How the text of a boolean setting is read that has the given core. -/
structure Reads (text : String) (core : List Char) : Prop where
  trimmed : ∀ other, Blank.Trims text.toList other ↔ other = core
  on : readBoolean? text = some true ↔ Begins core onSpellings
  off : readBoolean? text = some false ↔
    ¬ Begins core onSpellings ∧ Begins core offSpellings
  refused : readBoolean? text = none ↔
    ¬ Begins core onSpellings ∧ ¬ Begins core offSpellings
  shared : Begins core onSpellings ∧ Begins core offSpellings ↔ core = [] ∨ core = ['o']
  /-- The spellings could stand in any other order. -/
  order : core ≠ [] → core ≠ ['o'] →
    ∀ table, table.Perm spellings → readFrom? table core = readBoolean? text
  padded : ∀ before after : String, Blank.Void before.toList → Blank.Void after.toList →
    readBoolean? (before ++ text ++ after) = readBoolean? text
  /-- The length may be counted in characters or in units. -/
  long : 7 < core.length ∨ 7 < units core → readBoolean? text = none
  inner : ∀ char ∈ core, Blank.isBlank char = true → readBoolean? text = none

/-- Every text has a core, which alone decides how it is read. -/
theorem exists_reads (text : String) : ∃ core, Reads text core := by
  refine ⟨Blank.trim text.toList, ?_⟩
  have ⟨on, off, refused⟩ := readBoolean?_iff text
  constructor
  case trimmed => exact fun other => Blank.trims_iff
  case on => exact on
  case off => exact off
  case refused => exact refused
  case shared => exact begins_both_iff
  case order =>
    intro filled long table same
    refine readFrom?_perm same fun first second inFirst inSecond begins begins' => ?_
    obtain ⟨spelling, value⟩ := first
    obtain ⟨spelling', value'⟩ := second
    rw [mem_spellings_iff] at inFirst inSecond
    have apart := mt begins_both_iff.mp (not_or.mpr ⟨filled, long⟩)
    cases value <;> cases value'
    · rfl
    · exact absurd ⟨⟨_, inSecond, begins'⟩, ⟨_, inFirst, begins⟩⟩ apart
    · exact absurd ⟨⟨_, inFirst, begins⟩, ⟨_, inSecond, begins'⟩⟩ apart
    · rfl
  case padded =>
    intro before after voidBefore voidAfter
    rw [readBoolean?, String.toList_append, String.toList_append,
      Blank.trim_pad text.toList voidBefore voidAfter]
    rfl
  case long =>
    intro long
    have atLeast := length_le_units (Blank.trim text.toList)
    refine refused.mpr ⟨fun begins => ?_, fun begins => ?_⟩
    · have short := (plain_of_begins (.inl begins)).1
      omega
    · have short := (plain_of_begins (.inr begins)).1
      omega
  case inner =>
    intro char member blank
    refine refused.mpr ⟨fun begins => ?_, fun begins => ?_⟩
    · simp [(plain_of_begins (.inl begins)).2 char member] at blank
    · simp [(plain_of_begins (.inr begins)).2 char member] at blank

example : readBoolean? "\t o\n" = some true := by decide

end Setting

/-! ### The two routes -/

theorem Setting.parse_error {name text : String} {fault : Fault}
    (raised : Setting.parse name text = .error fault) :
    fault = .invalidSetting name (.text text) := by
  rw [Setting.parse] at raised
  split at raised
  · cases raised
  · exact (Except.error.inj raised).symm

theorem Setting.parse_of_blank {text : String} (name : String)
    (blank : Blank.Void text.toList) : Setting.parse name text = .ok true := by
  rw [Setting.parse, Setting.readBoolean?, Blank.trim_eq_nil_iff.mpr blank]
  rfl

/-- What is documented of a check. -/
structure EnvironmentCheck.Documented (check : EnvironmentCheck) : Prop where
  text : ∀ (schema : EnvironmentSchema) (environment : Environment) (text : String),
    environment.lookup schema.name = some (.text text) →
      check schema environment = schema.transform (some text)
  missing : ∀ (schema : EnvironmentSchema) (environment : Environment),
    environment.lookup schema.name = none →
      check schema environment = schema.transform none
  mistyped : ∀ (schema : EnvironmentSchema) (environment : Environment)
    (value : EnvironmentValue), environment.lookup schema.name = some value →
      (∀ text, value ≠ .text text) → check schema environment = none

theorem EnvironmentSchema.documented_check : EnvironmentSchema.check.Documented where
  text schema environment text found := by rw [check, found]
  missing schema environment found := by rw [check, found]
  mistyped schema environment value found other := by
    cases value with
    | text text => exact absurd rfl (other text)
    | null => rw [check, found]
    | number value => rw [check, found]

namespace Configuration

variable {check : EnvironmentCheck} {environment : Environment} {text : String}

/-- A documented check does what the check in use does. -/
theorem check_eq (documented : check.Documented) (schema : EnvironmentSchema)
    (environment : Environment) :
    check schema environment = EnvironmentSchema.check schema environment := by
  rw [EnvironmentSchema.check]
  split
  case h_1 found => exact documented.missing schema environment found
  case h_2 text found => exact documented.text schema environment text found
  case h_3 found => exact documented.mistyped schema environment _ found nofun
  case h_4 value found => exact documented.mistyped schema environment _ found nofun

theorem load_of_missing (missing : environment.lookup variableName = none) :
    load environment = .ok { debug := false } := by
  simp [load, loadWith, EnvironmentSchema.check, schema, missing, ofText?]

theorem load_of_blank (found : environment.lookup variableName = some (.text text))
    (blank : Blank.Void text.toList) : load environment = .ok { debug := false } := by
  have trimmed := Blank.trim_eq_nil_iff.mpr blank
  simp [load, loadWith, EnvironmentSchema.check, schema, found, ofText?, trimmed]

/-- On text that is not blank the environment is read like a command. -/
theorem load_of_text (found : environment.lookup variableName = some (.text text))
    (filled : ¬ Blank.Void text.toList) :
    load environment =
      (Setting.parse variableName text).map fun value => { debug := value } := by
  have trimmed := mt Blank.trim_eq_nil_iff.mp filled
  have raw : rawValue environment = .text text := by rw [rawValue, found]
  have transformed : EnvironmentSchema.check schema environment = Setting.readBoolean? text := by
    simp [EnvironmentSchema.check, schema, found, ofText?, trimmed]
  rw [load, loadWith, transformed, raw, Setting.parse]
  cases Setting.readBoolean? text <;> rfl

/-- How the environment's route compares with the command's. -/
structure Agrees (check : EnvironmentCheck) (environment : Environment) : Prop where
  load : loadWith check environment = load environment
  value : ∀ text, environment.lookup variableName = some (.text text) →
    ¬ Blank.Void text.toList → ∀ debug,
      loadWith check environment = .ok { debug := debug } ↔
        Setting.parse variableName text = .ok debug
  refusal : ∀ text, environment.lookup variableName = some (.text text) →
    ¬ Blank.Void text.toList → ∀ fault,
      loadWith check environment = .error fault ↔
        Setting.parse variableName text = .error fault
  /-- The error shows the text with its blanks. -/
  message : ∀ text, environment.lookup variableName = some (.text text) →
    ∀ fault, loadWith check environment = .error fault →
      fault = .invalidSetting variableName (.text text) ∧
        fault.message = "\"on\" or \"off\" expected for SYMFILE_TRACE_DEBUG, got \"" ++
          text ++ "\"."
  blank : ∀ text, environment.lookup variableName = some (.text text) →
    Blank.Void text.toList →
      loadWith check environment = .ok { debug := false } ∧
        Setting.parse variableName text = .ok true
  missing : environment.lookup variableName = none →
    loadWith check environment = .ok { debug := false }
  others : ∀ other : Environment,
    other.lookup variableName = environment.lookup variableName →
      loadWith check other = loadWith check environment

theorem loadWith_agrees (documented : check.Documented) (environment : Environment) :
    Agrees check environment := by
  have inUse : ∀ environment, loadWith check environment = Configuration.load environment := by
    intro environment
    rw [load, loadWith, loadWith, check_eq documented]
  constructor
  case load => exact inUse environment
  case value =>
    intro text found filled debug
    rw [inUse, load_of_text found filled]
    cases Setting.parse variableName text <;> simp [Except.map]
  case refusal =>
    intro text found filled fault
    rw [inUse, load_of_text found filled]
    cases Setting.parse variableName text <;> simp [Except.map]
  case message =>
    intro text found fault raised
    rw [inUse] at raised
    by_cases blank : Blank.Void text.toList
    · rw [load_of_blank found blank] at raised
      cases raised
    · rw [load_of_text found blank] at raised
      cases parsed : Setting.parse variableName text with
      | ok value =>
        rw [parsed] at raised
        cases raised
      | error fault' =>
        rw [parsed] at raised
        obtain rfl := Except.error.inj raised
        obtain rfl := Setting.parse_error parsed
        exact ⟨rfl, rfl⟩
  case blank =>
    intro text found blank
    exact ⟨(inUse environment).trans (load_of_blank found blank),
      Setting.parse_of_blank variableName blank⟩
  case missing =>
    intro missing
    exact (inUse environment).trans (load_of_missing missing)
  case others =>
    intro other same
    have sameRaw : rawValue other = rawValue environment := by rw [rawValue, rawValue, same]
    have sameCheck : EnvironmentSchema.check schema other =
        EnvironmentSchema.check schema environment := by
      simp only [EnvironmentSchema.check, schema, same]
    rw [inUse, inUse, load, load, loadWith, loadWith, sameRaw, sameCheck]

theorem loadWith_agrees_check :
    EnvironmentSchema.check.Documented ∧
      loadWith EnvironmentSchema.check
          [("PATH", .text "no"), (variableName, .text " maybe ")] =
        .error (.invalidSetting variableName (.text " maybe ")) ∧
      loadWith EnvironmentSchema.check [(variableName, .text "\t")] =
        .ok { debug := false } := by
  have documented := EnvironmentSchema.documented_check
  refine ⟨documented, ?_, ?_⟩
  · have agrees := loadWith_agrees documented
      [("PATH", .text "no"), (variableName, .text " maybe ")]
    exact (agrees.refusal " maybe " rfl (by decide) _).mpr rfl
  · have agrees := loadWith_agrees documented [(variableName, .text "\t")]
    exact (agrees.blank "\t" rfl (by decide)).1

end Configuration
end ReaderTrace
