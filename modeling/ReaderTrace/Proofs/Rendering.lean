import ReaderTrace.Proofs.Integral
import ReaderTrace.Record

/-!
The texts of values, and which values have the same text.

A value that is rendered gets its token, which it keeps. Two values then have the same
text exactly if they mean the same: nothing, the same truth value, the same text or the
same integer, where a number means the integer that it is worth and a reference means its
address. The first character of a text tells which of the four it is.
-/

namespace ReaderTrace

/-! ### Tokens that are kept -/

/-- The book in which the value has its token, if it needs one. -/
def AddressBook.enroll (book : AddressBook) : Value → AddressBook
  | .reference referent => book.assign referent
  | _ => book

namespace AddressBook

theorem known_assign_of_mem {book : AddressBook} {referent : Referent}
    (known : referent ∈ book.known) : book.assign referent = book := by
  unfold assign
  rw [if_pos known]

theorem mem_known_assign (book : AddressBook) (referent : Referent) :
    referent ∈ (book.assign referent).known := by
  unfold assign
  split
  · assumption
  · exact List.mem_append_right _ (List.mem_singleton.mpr rfl)

theorem known_prefix_enroll (book : AddressBook) (value : Value) :
    book.known <+: (book.enroll value).known := by
  cases value with
  | reference referent =>
    change book.known <+: (book.assign referent).known
    unfold assign
    split
    · exact List.prefix_rfl
    · exact List.prefix_append _ _
  | _ => exact List.prefix_rfl

/-- A thing that has a token keeps it. -/
theorem addressOf_of_prefix {book longer : AddressBook} {referent : Referent}
    (known : referent ∈ book.known) (grows : book.known <+: longer.known) :
    longer.addressOf referent = book.addressOf referent := by
  obtain ⟨more, moreEq⟩ := grows
  unfold addressOf
  rw [← moreEq, List.idxOf_append, if_pos known]

/-- Things that have a token have the same token only if they are the same. -/
theorem addressOf_inj {book : AddressBook} {first second : Referent}
    (known : first ∈ book.known) :
    book.addressOf first = book.addressOf second ↔ first = second := by
  constructor
  · intro same
    have positions : book.known.idxOf first = book.known.idxOf second := by
      unfold addressOf addressAt stride at same
      omega
    exact (List.idxOf_inj known).mp positions
  · rintro rfl
    rfl

end AddressBook

theorem Record.render_snd (value : Value) (book : AddressBook) :
    (Record.render value book).2 = book.enroll value := by
  cases value <;> rfl

/-- A text does not depend on what got its token later. -/
theorem Record.render_fst_of_prefix {value : Value} {book longer : AddressBook}
    (grows : (book.enroll value).known <+: longer.known) :
    (Record.render value longer).1 = (Record.render value book).1 := by
  cases value with
  | reference referent =>
    have known := book.mem_known_assign referent
    change Hexadecimal.render ((longer.assign referent).addressOf referent) =
      Hexadecimal.render ((book.assign referent).addressOf referent)
    rw [AddressBook.known_assign_of_mem (grows.subset known),
      AddressBook.addressOf_of_prefix known grows]
  | _ => rfl

/-! ### What is written -/

/-- What a text stands for. -/
inductive Meaning
  | nothing
  | truth (value : Bool)
  | text (value : String)
  | integer (value : Int)
deriving DecidableEq

namespace Meaning

def written : Meaning → String
  | .nothing => Record.nullPlaceholder
  | .truth value => Record.booleanText value
  | .text value => "\"" ++ value ++ "\""
  | .integer value => Hexadecimal.render value

/-- The characters that a text of this kind can begin with. -/
def initials : Meaning → List Char
  | .nothing => ['N']
  | .truth _ => ['t', 'f']
  | .text _ => ['"']
  | .integer _ => ['0', '-']

theorem exists_initial (meaning : Meaning) :
    ∃ char ∈ meaning.initials, meaning.written.toList.head? = some char := by
  cases meaning with
  | nothing => exact ⟨'N', List.mem_singleton.mpr rfl, rfl⟩
  | truth value =>
    cases value with
    | false => exact ⟨'f', by simp [initials], rfl⟩
    | true => exact ⟨'t', by simp [initials], rfl⟩
  | text value => exact ⟨'"', List.mem_singleton.mpr rfl, by simp [written]⟩
  | integer value =>
    change ∃ char ∈ ['0', '-'], (Hexadecimal.render value).toList.head? = some char
    rw [(Hexadecimal.spells_render value).text]
    cases decide (value < 0) with
    | false => exact ⟨'0', by decide, rfl⟩
    | true => exact ⟨'-', by decide, rfl⟩

/-- A text stands for one thing only. -/
theorem written_injective : Function.Injective written := by
  intro first second same
  have shared : ∃ char, char ∈ first.initials ∧ char ∈ second.initials := by
    obtain ⟨char, initial, begins⟩ := first.exists_initial
    obtain ⟨char', initial', begins'⟩ := second.exists_initial
    rw [same, begins'] at begins
    obtain rfl : char' = char := Option.some.inj begins
    exact ⟨char', initial, initial'⟩
  cases first <;> cases second
  case nothing.nothing => rfl
  case truth.truth value other =>
    revert same
    cases value <;> cases other <;> decide
  case text.text value other =>
    have chars := congrArg String.toList same
    simp only [written, String.toList_append, List.append_cancel_left_eq,
      List.append_cancel_right_eq] at chars
    rw [String.toList_injective chars]
  case integer.integer value other => rw [Hexadecimal.render_injective same]
  -- Texts of two kinds do not begin alike.
  all_goals simp [initials] at shared

end Meaning

/-! ### What values mean -/

namespace Value

/-- What a value is rendered as, once everything in the book has its token. -/
inductive Means (book : AddressBook) : Value → Meaning → Prop
  | absent : Means book .absent .nothing
  | null : Means book .null .nothing
  | boolean (value : Bool) : Means book (.boolean value) (.truth value)
  | text (value : String) : Means book (.text value) (.text value)
  | integer (value : Int) : Means book (.integer value) (.integer value)
  | number {value : Double} {integer : Int} (denotes : value.Denotes integer) :
      Means book (.number value) (.integer integer)
  | reference {referent : Referent} (known : referent ∈ book.known) :
      Means book (.reference referent) (.integer (book.addressOf referent))

/-- The value is no symbol, and if it is a number, it is worth an integer. -/
def IsPlain : Value → Prop
  | .number value => ∃ integer, value.Denotes integer
  | .symbol _ => False
  | _ => True

variable {value : Value} {book longer : AddressBook} {meaning : Meaning}

theorem Means.render_eq (means : value.Means book meaning) :
    (Record.render value book).1 = meaning.written := by
  cases means with
  | number denotes =>
    change Record.numberText _ = _
    rw [Record.numberText, Double.toInt?_eq_some_iff.mpr denotes]
    rfl
  | @reference referent known =>
    change Hexadecimal.render ((book.assign referent).addressOf referent) = _
    rw [AddressBook.known_assign_of_mem known]
    rfl
  | _ => rfl

theorem Means.unique {other : Meaning} (means : value.Means book meaning)
    (means' : value.Means book other) : meaning = other :=
  Meaning.written_injective (means.render_eq.symm.trans means'.render_eq)

theorem IsPlain.exists_means (plain : value.IsPlain)
    (grows : (book.enroll value).known <+: longer.known) :
    ∃ meaning, value.Means longer meaning := by
  cases value with
  | absent => exact ⟨_, .absent⟩
  | null => exact ⟨_, .null⟩
  | boolean value => exact ⟨_, .boolean value⟩
  | text value => exact ⟨_, .text value⟩
  | number value =>
    obtain ⟨integer, denotes⟩ := plain
    exact ⟨_, .number denotes⟩
  | integer value => exact ⟨_, .integer value⟩
  | symbol description => exact plain.elim
  | reference referent => exact ⟨_, .reference (grows.subset (book.mem_known_assign referent))⟩

/-- The two values mean one thing. -/
def SameMeaning (book : AddressBook) (first second : Value) : Prop :=
  ∃ meaning, first.Means book meaning ∧ second.Means book meaning

theorem sameMeaning_comm (first second : Value) :
    SameMeaning book first second ↔ SameMeaning book second first := by
  unfold SameMeaning
  simp only [and_comm]

theorem not_sameMeaning_text {text : String} {other : Value}
    (noText : ∀ text, other ≠ .text text) : ¬ SameMeaning book (.text text) other := by
  rintro ⟨meaning, means, means'⟩
  cases means
  cases means'
  exact noText text rfl

theorem sameMeaning_number_integer {number : Double} {integer : Int} :
    SameMeaning book (.number number) (.integer integer) ↔ number.Denotes integer := by
  constructor
  · rintro ⟨meaning, means, means'⟩
    cases means'
    cases means with
    | number denotes => exact denotes
  · intro denotes
    exact ⟨_, .number denotes, .integer integer⟩

theorem sameMeaning_references {first second : Referent} (known : first ∈ book.known) :
    SameMeaning book (.reference first) (.reference second) ↔ first = second := by
  constructor
  · rintro ⟨meaning, means, means'⟩
    cases means with
    | reference =>
      generalize sameEq : Meaning.integer _ = shared at means'
      cases means' with
      | reference =>
        have same := Int.ofNat.inj (Meaning.integer.inj sameEq)
        exact (AddressBook.addressOf_inj known).mp same
  · rintro rfl
    exact ⟨_, .reference known, .reference known⟩

end Value

/-! ### Two values, one after the other -/

namespace Record

/-- The tokens that are given out when the values have been rendered one after the other. -/
def bookAfter (book : AddressBook) (first second : Value) : AddressBook :=
  (render second (render first book).2).2

/-- Rendered one after the other, the values get the same text. -/
def Alike (book : AddressBook) (first second : Value) : Prop :=
  (render first book).1 = (render second (render first book).2).1

theorem bookAfter_eq (book : AddressBook) (first second : Value) :
    bookAfter book first second = (book.enroll first).enroll second := by
  rw [bookAfter, render_snd, render_snd]

theorem alike_iff {first second : Value} (plain : first.IsPlain) (plain' : second.IsPlain)
    (book : AddressBook) :
    Alike book first second ↔ Value.SameMeaning (bookAfter book first second) first second := by
  have grows : (book.enroll first).known <+: ((book.enroll first).enroll second).known :=
    (book.enroll first).known_prefix_enroll second
  have settled : ((book.enroll first).enroll second).known <+:
      ((book.enroll first).enroll second).known := List.prefix_rfl
  obtain ⟨meaning, means⟩ := plain.exists_means grows
  obtain ⟨meaning', means'⟩ := plain'.exists_means settled
  unfold Alike
  rw [bookAfter_eq, render_snd, ← render_fst_of_prefix grows, ← render_fst_of_prefix settled,
    means.render_eq, means'.render_eq, Meaning.written_injective.eq_iff]
  constructor
  · rintro rfl
    exact ⟨meaning, means, means'⟩
  · rintro ⟨shared, shares, shares'⟩
    exact (means.unique shares).trans (means'.unique shares').symm

end Record

/-! ### The statement about texts -/

/-- Whatever has got its token before: two values that are rendered one after the other
get the same text exactly if they mean the same. So text is written like no other value,
a number like an integer exactly if it is worth it, and two references alike only if they
are to the same thing. -/
theorem Record.alike_iff_same_meaning (book : AddressBook) :
    (∀ first second : Value, first.IsPlain → second.IsPlain →
      (Alike book first second ↔
        Value.SameMeaning (bookAfter book first second) first second)) ∧
    (∀ (text : String) (other : Value), other.IsPlain → (∀ text, other ≠ .text text) →
      ¬ Alike book (.text text) other ∧ ¬ Alike book other (.text text)) ∧
    (∀ (number : Double) (integer : Int), Value.IsPlain (.number number) →
      (Alike book (.number number) (.integer integer) ↔ number.Denotes integer) ∧
        (Alike book (.integer integer) (.number number) ↔ number.Denotes integer)) ∧
    ∀ first second : Referent,
      Alike book (.reference first) (.reference second) ↔ first = second := by
  have textPlain : ∀ text, Value.IsPlain (.text text) := fun _ => trivial
  have integerPlain : ∀ integer, Value.IsPlain (.integer integer) := fun _ => trivial
  have referencePlain : ∀ referent, Value.IsPlain (.reference referent) := fun _ => trivial
  refine ⟨fun first second plain plain' => alike_iff plain plain' book, ?_, ?_, ?_⟩
  · intro text other plain noText
    rw [alike_iff (textPlain text) plain, alike_iff plain (textPlain text),
      Value.sameMeaning_comm other]
    exact ⟨Value.not_sameMeaning_text noText, Value.not_sameMeaning_text noText⟩
  · intro number integer plain
    rw [alike_iff plain (integerPlain integer), alike_iff (integerPlain integer) plain,
      Value.sameMeaning_comm (.integer integer)]
    exact ⟨Value.sameMeaning_number_integer, Value.sameMeaning_number_integer⟩
  · intro first second
    rw [alike_iff (referencePlain first) (referencePlain second), bookAfter_eq]
    apply Value.sameMeaning_references
    exact ((book.assign first).known_prefix_enroll _).subset (book.mem_known_assign first)

/-- The double after `2 ^ 53` and its integer, a text that spells out the placeholder, and
the first token that is given out. -/
theorem Record.alike_iff_same_meaning_token :
    Alike .empty (.number ⟨false, 1076, 1⟩) (.integer 9007199254740994) ∧
    ¬ Alike .empty (.text "NULL") .null ∧
    Alike .empty (.reference (.object ⟨0⟩)) (.integer 4096) ∧
    ¬ Alike .empty (.reference (.object ⟨0⟩)) (.reference (.object ⟨1⟩)) := by
  obtain ⟨pairs, texts, numbers, references⟩ := alike_iff_same_meaning .empty
  have denotes : Double.Denotes ⟨false, 1076, 1⟩ 9007199254740994 :=
    Double.toInt?_eq_some_iff.mp (by decide)
  have token : Alike .empty (.reference (.object ⟨0⟩)) (.integer 4096) :=
    (pairs (.reference (.object ⟨0⟩)) (.integer 4096) trivial trivial).mpr
      ⟨.integer 4096, .reference (List.mem_singleton.mpr rfl), .integer 4096⟩
  refine ⟨(numbers _ _ ⟨_, denotes⟩).1.mpr denotes, ?_, token, ?_⟩
  · exact (texts "NULL" .null trivial (fun _ => nofun)).1
  · intro alike
    exact absurd ((references _ _).mp alike) (by decide)

end ReaderTrace
