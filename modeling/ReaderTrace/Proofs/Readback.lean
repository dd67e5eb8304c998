import ReaderTrace.Proofs.Hexadecimal
import ReaderTrace.Record

/-!
Reading call records back.

A record names the table and the function in front of its parenthesis, and inside it
has the object file and the arguments, set apart by a comma and a space. As long as
none of these holds the two in a row, they are found again at the first places where
the two stand, also when a part ends with a comma, begins with a space or is empty.
Only an object file whose name looks like the middle of a result record makes a call
record look like one.
-/

namespace ReaderTrace

namespace Record

/-! ### Parts set apart -/

/-- No comma is followed by a space. -/
def Whole (text : List Char) : Prop :=
  ¬ [',', ' '] <:+: text

instance (text : List Char) : Decidable (Whole text) :=
  inferInstanceAs (Decidable (¬ [',', ' '] <:+: text))

theorem Whole.tail {char : Char} {text : List Char} (whole : Whole (char :: text)) :
    Whole text :=
  fun found => whole (List.infix_cons found)

theorem whole_of_notMem {text : List Char} (plain : ',' ∉ text) : Whole text :=
  fun found => plain (found.subset (by simp))

/-- The parts of a text that commas with a space after them set apart. -/
def parts : List Char → List (List Char)
  | ',' :: ' ' :: rest => [] :: parts rest
  | char :: rest => (parts rest).modifyHead (char :: ·)
  | [] => [[]]

theorem parts_cons {char : Char} {rest : List Char}
    (apart : ∀ tail, char = ',' → rest ≠ ' ' :: tail) :
    parts (char :: rest) = (parts rest).modifyHead (char :: ·) := by
  rw [parts]
  exact apart

/-- A whole text is found again in front of a comma and a space: its own last character
may be a comma, but then a second comma follows it. -/
theorem parts_append {text : List Char} (whole : Whole text) (rest : List Char) :
    parts (text ++ ',' :: ' ' :: rest) = text :: parts rest := by
  induction text with
  | nil => rfl
  | cons char text ih =>
    have apart : ∀ tail, char = ',' → text ++ ',' :: ' ' :: rest ≠ ' ' :: tail := by
      rintro tail rfl next
      cases text with
      | nil => cases next
      | cons second text =>
        obtain rfl : second = ' ' := (List.cons.inj next).1
        exact whole (List.IsPrefix.isInfix ⟨text, rfl⟩)
    rw [List.cons_append, parts_cons apart, ih whole.tail]
    rfl

theorem parts_of_whole {text : List Char} (whole : Whole text) : parts text = [text] := by
  induction text with
  | nil => rfl
  | cons char text ih =>
    have apart : ∀ tail, char = ',' → text ≠ ' ' :: tail := by
      rintro tail rfl rfl
      exact whole (List.IsPrefix.isInfix ⟨tail, rfl⟩)
    rw [parts_cons apart, ih whole.tail]
    rfl

theorem parts_intercalate {first : List Char} {rest : List (List Char)}
    (whole : ∀ text ∈ first :: rest, Whole text) :
    parts (List.intercalate [',', ' '] (first :: rest)) = first :: rest := by
  induction rest generalizing first with
  | nil =>
    rw [List.intercalate_singleton]
    exact parts_of_whole (whole first (List.mem_singleton.mpr rfl))
  | cons second rest ih =>
    rw [List.intercalate_cons_cons, List.append_assoc]
    change parts (first ++ ',' :: ' ' :: List.intercalate [',', ' '] (second :: rest)) = _
    rw [parts_append (whole first (List.mem_cons_self ..)),
      ih fun text member => whole text (List.mem_cons_of_mem _ member)]

/-! ### Headings -/

/-- What stands in front of the parenthesis of a record, and what stands behind it. -/
structure Heading where
  label : TableLabel
  name : String
  rest : List Char
deriving DecidableEq

def Heading.chars (heading : Heading) : List Char :=
  heading.label.name.toList ++ '-' :: '>' ::
    (heading.name.toList ++ ' ' :: '(' :: heading.rest)

/-- The label ends at the first hyphen and the name at the first space. -/
def heading? (text : List Char) : Option Heading :=
  let afterLabel := (text.dropWhile (· != '-')).drop 2
  ([.symbols, .probes, .quick].find? fun label : TableLabel =>
      label.name.toList = text.takeWhile (· != '-')).map fun label =>
    { label := label
      name := String.ofList (afterLabel.takeWhile (· != ' '))
      rest := (afterLabel.dropWhile (· != ' ')).drop 2 }

theorem heading?_chars {heading : Heading} (spaceless : ' ' ∉ heading.name.toList) :
    heading? heading.chars = some heading := by
  obtain ⟨label, name, rest⟩ := heading
  have noHyphen : ∀ char ∈ label.name.toList, (char != '-') = true := by
    rw [← List.all_eq_true]
    cases label <;> decide
  have noSpace : ∀ char ∈ name.toList, (char != ' ') = true := by
    intro char member
    rw [bne_iff_ne]
    rintro rfl
    exact spaceless member
  have found : ([.symbols, .probes, .quick] : List TableLabel).find?
      (fun other => other.name.toList = label.name.toList) = some label := by
    cases label <;> decide
  unfold heading? Heading.chars
  simp only [List.takeWhile_append_of_pos noHyphen, List.dropWhile_append_of_pos noHyphen,
    List.takeWhile_append_of_pos noSpace, List.dropWhile_append_of_pos noSpace,
    bne_self_eq_false, Bool.false_eq_true, not_false_eq_true, List.takeWhile_cons_of_neg,
    List.dropWhile_cons_of_neg, List.append_nil, List.drop_succ_cons, List.drop_zero, found,
    Option.map_some, String.ofList_toList]

end Record

/-! ### Call records -/

/-- What a call record shows. -/
structure CallRecord where
  label : TableLabel
  name : String
  objectFile : String
  arguments : List String
deriving DecidableEq

namespace CallRecord

def text (record : CallRecord) : String :=
  Record.call record.label.name record.name record.objectFile record.arguments

/-- The name has no space in it, and neither the object file nor an argument has a comma
with a space after it. -/
structure Readable (record : CallRecord) : Prop where
  name : ' ' ∉ record.name.toList
  objectFile : Record.Whole record.objectFile.toList
  arguments : ∀ argument ∈ record.arguments, Record.Whole argument.toList

/-- The call record that has the text. The parenthesis at the end is dropped. -/
def read? (text : String) : Option CallRecord :=
  (Record.heading? text.toList).bind fun heading =>
    match Record.parts heading.rest.dropLast with
    | [] => none
    | objectFile :: arguments =>
        some
          { label := heading.label
            name := heading.name
            objectFile := String.ofList objectFile
            arguments := arguments.map String.ofList }

/-- What stands between the parentheses of the record. -/
def inner (record : CallRecord) : List Char :=
  List.intercalate [',', ' '] (record.objectFile.toList :: record.arguments.map String.toList)

def heading (record : CallRecord) : Record.Heading :=
  { label := record.label, name := record.name, rest := record.inner ++ [')'] }

theorem toList_text (record : CallRecord) : record.text.toList = record.heading.chars := by
  simp [text, heading, Record.Heading.chars, inner, Record.call, String.toList_append,
    String.toList_intercalate]

variable {record : CallRecord}

theorem Readable.parts_inner (readable : record.Readable) :
    Record.parts record.inner =
      record.objectFile.toList :: record.arguments.map String.toList := by
  apply Record.parts_intercalate
  intro text member
  obtain rfl | inArguments := List.mem_cons.mp member
  · exact readable.objectFile
  · obtain ⟨argument, listed, rfl⟩ := List.mem_map.mp inArguments
    exact readable.arguments argument listed

theorem Readable.read?_text (readable : record.Readable) :
    read? record.text = some record := by
  have headingEq : Record.heading? record.heading.chars = some record.heading :=
    Record.heading?_chars readable.name
  unfold read?
  rw [toList_text, headingEq, Option.bind_some]
  have partsEq : Record.parts record.heading.rest.dropLast =
      record.objectFile.toList :: record.arguments.map String.toList := by
    rw [heading, List.dropLast_concat, readable.parts_inner]
  rw [partsEq]
  simp [heading]

end CallRecord

/-! ### Result records -/

namespace Record

/-- What a result record has between its opening parenthesis and the value. -/
def resultMark : List Char :=
  ['.', '.', '.', ')', ' ', '=', ' ']

/-- A beginning without a certain character ends before that character comes. -/
theorem prefix_of_prefix_append_cons {start front rest : List Char} {stop : Char}
    (absent : stop ∉ start) (begins : start <+: front ++ stop :: rest) : start <+: front := by
  obtain ⟨tail, whole⟩ := begins
  obtain ⟨more, rfl, -⟩ | ⟨more, rfl, next⟩ := List.append_eq_append_iff.mp whole
  · exact List.prefix_append start more
  · cases more with
    | nil => simp
    | cons char more =>
      obtain rfl : stop = char := (List.cons.inj next).1
      exact absurd (by simp) absent

theorem toList_result (label : TableLabel) (name value : String) :
    (result label.name name value).toList =
      Heading.chars { label := label, name := name, rest := resultMark ++ value.toList } := by
  simp [result, Heading.chars, resultMark, String.toList_append]

end Record

namespace CallRecord

variable {record : CallRecord}

/-- Behind the object file there is a parenthesis and the end, or a comma. -/
theorem inner_cases (record : CallRecord) :
    record.inner ++ [')'] = record.objectFile.toList ++ [')'] ∨
      ∃ rest, record.inner ++ [')'] = record.objectFile.toList ++ ',' :: rest := by
  unfold inner
  cases record.arguments with
  | nil => exact .inl (by simp)
  | cons argument arguments =>
    refine .inr ⟨' ' :: (List.intercalate [',', ' ']
      (argument.toList :: arguments.map String.toList) ++ [')']), ?_⟩
    rw [List.map_cons, List.intercalate_cons_cons, List.append_assoc, List.append_assoc]
    rfl

theorem resultMark_prefix_iff : Record.resultMark <+: record.inner ++ [')'] ↔
    Record.resultMark <+: record.objectFile.toList := by
  constructor
  · intro begins
    obtain ended | ⟨rest, continued⟩ := record.inner_cases
    · rw [ended, List.prefix_concat_iff] at begins
      obtain whole | begins := begins
      · have last := congrArg List.getLast? whole
        rw [List.getLast?_concat] at last
        exact absurd last (by decide)
      · exact begins
    · rw [continued] at begins
      exact Record.prefix_of_prefix_append_cons (by decide) begins
  · intro begins
    obtain ended | ⟨rest, continued⟩ := record.inner_cases
    · rw [ended]
      exact begins.trans (List.prefix_append _ _)
    · rw [continued]
      exact begins.trans (List.prefix_append _ _)

theorem text_eq_result_iff (readable : record.Readable) {label : TableLabel}
    {name value : String} (spaceless : ' ' ∉ name.toList) :
    record.text = Record.result label.name name value ↔
      record.label = label ∧ record.name = name ∧
        record.inner ++ [')'] = Record.resultMark ++ value.toList := by
  have headingEq : record.heading =
      { label := label, name := name, rest := Record.resultMark ++ value.toList } ↔
      record.label = label ∧ record.name = name ∧
        record.inner ++ [')'] = Record.resultMark ++ value.toList := by
    simp [heading]
  rw [← headingEq, ← String.toList_inj, toList_text, Record.toList_result]
  constructor
  · intro same
    have found : Record.heading? record.heading.chars = some record.heading :=
      Record.heading?_chars readable.name
    rw [same, Record.heading?_chars spaceless] at found
    exact (Option.some.inj found).symm
  · intro same
    rw [same]

/-- A call record is the text of a result record exactly if its object file is named like
the middle of one. -/
theorem exists_result_iff (readable : record.Readable) :
    (∃ (label : TableLabel) (name value : String),
      ' ' ∉ name.toList ∧ record.text = Record.result label.name name value) ↔
      Record.resultMark <+: record.objectFile.toList := by
  rw [← resultMark_prefix_iff]
  constructor
  · rintro ⟨label, name, value, spaceless, same⟩
    exact ⟨value.toList, ((text_eq_result_iff readable spaceless).mp same).2.2.symm⟩
  · rintro ⟨value, same⟩
    refine ⟨record.label, record.name, String.ofList value, readable.name, ?_⟩
    rw [text_eq_result_iff readable readable.name, String.toList_ofList]
    exact ⟨rfl, rfl, same.symm⟩

end CallRecord

/-! ### Rendered values -/

theorem Decimal.comma_notMem_layout (decimal : Scientific) : ',' ∉ layout decimal := by
  have noDigit : ∀ number, ',' ∉ Nat.toDigits 10 number := by
    intro number member
    exact absurd (Nat.isDigit_of_mem_toDigits (by decide) (by decide) member) (by decide)
  have noZero : ∀ count, ',' ∉ zeros count := by
    intro count member
    exact absurd (List.eq_of_mem_replicate member) (by decide)
  have noExponent : ∀ exponent : Int,
      ',' ∉ 'e' :: (if exponent < 0 then '-' else '+') :: Nat.toDigits 10 exponent.natAbs := by
    intro exponent
    split <;> simp only [List.mem_cons, noDigit, Char.reduceEq, or_self, not_false_eq_true]
  have digits := noDigit decimal.digits
  unfold layout
  generalize Nat.toDigits 10 decimal.digits = text at digits
  dsimp only
  split
  · exact List.not_mem_append digits (noZero _)
  · split
    · have taken : ∀ count, ',' ∉ text.take count := fun _ => mt List.mem_of_mem_take digits
      have dropped : ∀ count, ',' ∉ text.drop count := fun _ => mt List.mem_of_mem_drop digits
      exact List.not_mem_append (taken _)
        (List.not_mem_cons_of_ne_of_not_mem (by decide) (dropped _))
    · split
      · exact List.not_mem_cons_of_ne_of_not_mem (by decide)
          (List.not_mem_cons_of_ne_of_not_mem (by decide)
            (List.not_mem_append (noZero _) digits))
      · split
        · exact List.not_mem_append digits (noExponent _)
        · rw [List.mem_cons, not_or] at digits
          exact List.not_mem_cons_of_ne_of_not_mem digits.1
            (List.not_mem_cons_of_ne_of_not_mem (by decide)
              (List.not_mem_append digits.2 (noExponent _)))
        · exact noExponent _

theorem Decimal.comma_notMem_render (number : Double) :
    ',' ∉ (Decimal.render number).toList := by
  have noSign : ',' ∉ (if number.negative then ['-'] else []) := by
    split <;> decide
  have noWord : ',' ∉ "Infinity".toList := by decide
  unfold Decimal.render
  dsimp only
  split
  · decide
  · split
    · simp only [String.toList_ofList, List.mem_append, noSign, noWord, or_self, not_false_eq_true]
    · split
      · decide
      · simp only [String.toList_ofList, List.mem_append, noSign, comma_notMem_layout, or_self,
          not_false_eq_true]

/-- The value is text or a symbol, and the client chooses what is written for it. -/
def Value.IsWorded : Value → Prop
  | .text _ => True
  | .symbol _ => True
  | _ => False

theorem Record.comma_notMem_render {value : Value} (unworded : ¬ value.IsWorded)
    (book : AddressBook) : ',' ∉ (render value book).1.toList := by
  have noHexadecimal : ∀ integer, ',' ∉ (Hexadecimal.render integer).toList :=
    Hexadecimal.notMem_render (by decide)
  cases value with
  | absent | null =>
    change ',' ∉ nullPlaceholder.toList
    decide
  | boolean value =>
    change ',' ∉ (booleanText value).toList
    cases value <;> decide
  | text value => exact absurd trivial unworded
  | number value =>
    change ',' ∉ (numberText value).toList
    unfold numberText
    split
    · exact noHexadecimal _
    · exact Decimal.comma_notMem_render value
  | integer value => exact noHexadecimal value
  | symbol description => exact absurd trivial unworded
  | reference referent => exact noHexadecimal _

/-! ### The statement about records -/

/-- A call record reads back as what it shows, so that it determines its label, its name,
its object file, how many arguments it has and each of them, if the name has no space and
no other part has a comma with a space after it. The text of a value is such a part unless
the value is text or a symbol. The record is no result record, unless the object file is
named like the middle of one. -/
theorem CallRecord.texts_read_back :
    (∀ record : CallRecord, record.Readable → read? record.text = some record) ∧
    (∀ first second : CallRecord, first.Readable → second.Readable →
      (first.text = second.text ↔ first = second)) ∧
    (∀ (value : Value) (book : AddressBook), ¬ value.IsWorded →
      Record.Whole (Record.render value book).1.toList) ∧
    ∀ record : CallRecord, record.Readable →
      ((∃ (label : TableLabel) (name value : String),
        ' ' ∉ name.toList ∧ record.text = Record.result label.name name value) ↔
        "...) = ".toList <+: record.objectFile.toList) := by
  refine ⟨fun record readable => readable.read?_text, ?_, ?_, ?_⟩
  · intro first second readable readable'
    constructor
    · intro same
      have found := readable.read?_text
      rw [same, readable'.read?_text] at found
      exact (Option.some.inj found).symm
    · rintro rfl
      rfl
  · intro value book unworded
    exact Record.whole_of_notMem (Record.comma_notMem_render unworded book)
  · intro record readable
    exact exists_result_iff readable

/-- Parts that end with a comma, begin with a space or are empty. -/
def CallRecord.ragged : CallRecord :=
  { label := .symbols, name := "read", objectFile := "lib(a),", arguments := ["", " 0x2,"] }

theorem CallRecord.texts_read_back_ragged :
    ragged.Readable ∧ ragged.text = "sf->read (lib(a),, ,  0x2,)" ∧
    read? ragged.text = some ragged ∧
    (∀ name value : String, ' ' ∉ name.toList → ragged.text ≠ Record.result "sf" name value) ∧
    ¬ Value.IsWorded .null ∧
    Record.Whole (Record.render .null .empty).1.toList := by
  obtain ⟨reads, _, values, results⟩ := texts_read_back
  have readable : ragged.Readable :=
    ⟨by decide, by decide +kernel, by decide +kernel⟩
  have plain : ¬ "...) = ".toList <+: ragged.objectFile.toList := by decide
  have unworded : ¬ Value.IsWorded .null := fun worded => worded
  refine ⟨readable, ?_, reads ragged readable, ?_, unworded, values _ _ unworded⟩
  · decide
  · intro name value spaceless same
    exact plain ((results ragged readable).mp ⟨.symbols, name, value, spaceless, same⟩)

end ReaderTrace
