import Mathlib.Data.List.Induction
import Mathlib.Logic.Function.Basic
import ReaderTrace.Number.Hexadecimal

/-!
Reading integers in base sixteen back.

The digits of a number read back as that number, and the sign in front of the
marker as its sign, so each integer has a text of its own. Digits without a leading
zero are the digits of the number that they stand for, so the texts of integers are
known by their shape; among the texts of that shape only a negative zero belongs to no
integer.
-/

namespace ReaderTrace.Hexadecimal

def digitValue (digit : Char) : Nat :=
  if digit.isDigit then digit.toNat - '0'.toNat else digit.toNat - 'a'.toNat + 10

/-- The number that digits stand for, most significant first. -/
def value (digits : List Char) : Nat :=
  digits.foldl (fun sum digit => 16 * sum + digitValue digit) 0

theorem digitValue_digitChar {number : Nat} (small : number < 16) :
    digitValue number.digitChar = number := by
  have each : ∀ digit : Fin 16, digitValue digit.val.digitChar = digit.val := by decide
  exact each ⟨number, small⟩

theorem value_concat (digits : List Char) (digit : Char) :
    value (digits ++ [digit]) = 16 * value digits + digitValue digit := by
  simp [value]

theorem digits_of_lt {number : Nat} (small : number < 16) :
    digits number = [number.digitChar] :=
  Nat.toDigits_of_lt_base small

theorem digits_of_le {number : Nat} (large : 16 ≤ number) :
    digits number = digits (number / 16) ++ [(number % 16).digitChar] :=
  Nat.toDigits_of_base_le (by decide) large

theorem value_digits (number : Nat) : value (digits number) = number := by
  induction number using Nat.strongRecOn with
  | ind number ih =>
    by_cases small : number < 16
    · rw [digits_of_lt small]
      simp [value, digitValue_digitChar small]
    · have smaller : number / 16 < number := by omega
      have last : number % 16 < 16 := by omega
      rw [digits_of_le (Nat.not_lt.mp small), value_concat, ih (number / 16) smaller,
        digitValue_digitChar last]
      omega

/-! ### Digits without a leading zero -/

/-- The digits in use, by value. -/
def alphabet : List Char :=
  "0123456789abcdef".toList

/-- At least one digit, and no leading zero unless zero is the only digit. -/
structure Canonical (digits : List Char) : Prop where
  filled : digits ≠ []
  known : ∀ digit ∈ digits, digit ∈ alphabet
  leading : digits.head? = some '0' → digits = ['0']

theorem digitChar_mem_alphabet {number : Nat} (small : number < 16) :
    number.digitChar ∈ alphabet := by
  have each : ∀ digit : Fin 16, digit.val.digitChar ∈ alphabet := by decide
  exact each ⟨number, small⟩

theorem digitChar_digitValue {digit : Char} (known : digit ∈ alphabet) :
    digitValue digit < 16 ∧ (digitValue digit).digitChar = digit := by
  have each : (alphabet.all fun digit =>
      digitValue digit < 16 ∧ (digitValue digit).digitChar = digit) = true := by decide
  exact of_decide_eq_true (List.all_eq_true.mp each digit known)

theorem canonical_digits (number : Nat) : Canonical (digits number) := by
  induction number using Nat.strongRecOn with
  | ind number ih =>
    by_cases small : number < 16
    · rw [digits_of_lt small]
      refine ⟨by simp, ?_, ?_⟩
      · intro digit member
        rw [List.mem_singleton.mp member]
        exact digitChar_mem_alphabet small
      · intro zero
        rw [Option.some.inj zero]
    · have large : 16 ≤ number := Nat.not_lt.mp small
      have ⟨filled, known, leading⟩ := ih (number / 16) (by omega)
      rw [digits_of_le large]
      refine ⟨by simp, ?_, ?_⟩
      · intro digit member
        obtain earlier | last := List.mem_append.mp member
        · exact known digit earlier
        · rw [List.mem_singleton.mp last]
          exact digitChar_mem_alphabet (Nat.mod_lt _ (by decide))
      · intro zero
        have first : (digits (number / 16)).head? = some '0' := by
          obtain ⟨_, _, same⟩ := List.exists_cons_of_ne_nil filled
          rw [same] at zero ⊢
          exact zero
        -- A quotient that begins with a zero is zero, but this one is not.
        have quotient : number / 16 = 0 := by
          rw [← value_digits (number / 16), leading first]
          rfl
        omega

/-- Canonical digits are those of the number that they stand for. -/
theorem digits_value {text : List Char} (canonical : Canonical text) :
    digits (value text) = text := by
  induction text using List.reverseRecOn with
  | nil => exact absurd rfl canonical.filled
  | append_singleton front last ih =>
    obtain ⟨filled, known, leading⟩ := canonical
    obtain ⟨small, back⟩ := digitChar_digitValue (known last (by simp))
    rw [value_concat]
    cases front with
    | nil =>
      change digits (16 * 0 + digitValue last) = [last]
      rw [Nat.mul_zero, Nat.zero_add, digits_of_lt small, back]
    | cons first rest =>
      have noZero : first ≠ '0' := by
        rintro rfl
        simp at leading
      have front : Canonical (first :: rest) := by
        refine ⟨by simp, fun digit member => known digit (List.mem_append_left _ member), ?_⟩
        intro zero
        exact absurd (Option.some.inj zero) noZero
      have digitsEq := ih front
      have positive : value (first :: rest) ≠ 0 := by
        intro zero
        rw [zero] at digitsEq
        exact noZero (List.cons.inj digitsEq).1.symm
      have quotient : (16 * value (first :: rest) + digitValue last) / 16 =
          value (first :: rest) := by omega
      have remainder : (16 * value (first :: rest) + digitValue last) % 16 =
          digitValue last := by omega
      rw [digits_of_le (by omega), quotient, remainder, digitsEq, back]

/-! ### Texts -/

/-- The text has the sign, the marker and canonical digits. -/
structure Spells (text : String) (negative : Bool) (digits : List Char) : Prop where
  text : text.toList = (if negative then ['-'] else []) ++ marker ++ digits
  canonical : Canonical digits

/-- The integer that a text stands for by its sign and its digits. -/
def read? (text : String) : Option Int :=
  match text.toList with
  | '-' :: '0' :: 'x' :: digits => some (-(value digits : Int))
  | '0' :: 'x' :: digits => some (value digits)
  | _ => none

theorem spells_render (number : Int) :
    Spells (render number) (decide (number < 0)) (digits number.natAbs) := by
  refine ⟨?_, canonical_digits _⟩
  rw [render, String.toList_ofList]
  cases number with
  | ofNat number => rfl
  | negSucc number =>
    rw [decide_eq_true (Int.negSucc_lt_zero number)]
    rfl

/-- No other character stands in the text of an integer. -/
theorem notMem_render {char : Char} (foreign : char ∉ '-' :: 'x' :: alphabet) (number : Int) :
    char ∉ (render number).toList := by
  have zero : '0' ∈ alphabet := by decide
  have ⟨spelled, canonical⟩ := spells_render number
  rw [spelled, List.mem_append, List.mem_append]
  rintro ((sign | inMarker) | digit)
  · split at sign
    · exact foreign (by simp [List.mem_singleton.mp sign])
    · cases sign
  · have known : char = '0' ∨ char = 'x' := by simpa [marker] using inMarker
    obtain rfl | rfl := known
    · exact foreign (by simp [zero])
    · exact foreign (by simp)
  · exact foreign (by simp [canonical.known char digit])

theorem Spells.read {text : String} {negative : Bool} {digits : List Char}
    (spells : Spells text negative digits) :
    read? text = some (if negative then -(value digits : Int) else value digits) := by
  unfold read?
  rw [spells.text]
  cases negative <;> rfl

theorem read?_render (number : Int) : read? (render number) = some number := by
  rw [(spells_render number).read, value_digits]
  cases number with
  | ofNat number => rfl
  | negSucc number =>
    rw [decide_eq_true (Int.negSucc_lt_zero number)]
    rfl

/-- Different integers have different texts. -/
theorem render_injective : Function.Injective render := by
  intro first second same
  have back := read?_render first
  rw [same, read?_render] at back
  exact (Option.some.inj back).symm

/-- A text of the right shape is the text of the integer that it stands for, unless it
is a negative zero. -/
theorem Spells.render_eq {text : String} {negative : Bool} {digits : List Char}
    (spells : Spells text negative digits) (signed : text ≠ "-0x0") :
    render (if negative then -(value digits : Int) else value digits) = text := by
  have digitsEq := digits_value spells.canonical
  apply String.toList_injective
  rw [render, String.toList_ofList, spells.text]
  cases negative with
  | false =>
    change marker ++ Hexadecimal.digits (value digits) = marker ++ digits
    rw [digitsEq]
  | true =>
    cases magnitude : value digits with
    | zero =>
      rw [magnitude] at digitsEq
      refine absurd (String.toList_injective ?_) signed
      rw [spells.text, ← digitsEq]
      rfl
    | succ number =>
      rw [magnitude] at digitsEq
      change '-' :: (marker ++ Hexadecimal.digits (number + 1)) = _
      rw [digitsEq]
      rfl

end ReaderTrace.Hexadecimal
