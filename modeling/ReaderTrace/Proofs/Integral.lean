import Mathlib.Algebra.Order.Field.Rat
import Mathlib.Tactic.FieldSimp
import Mathlib.Tactic.Ring
import ReaderTrace.Number.Double
import ReaderTrace.Proofs.Hexadecimal

/-!
Doubles that are integers, and their texts in base sixteen.

A finite double is worth its significand times a power of two, with its sign. The
integer found in its fields is exactly the integer that it is worth, however large,
and in base sixteen it is written like that integer.
-/

namespace ReaderTrace

namespace Double

variable {number : Double} {integer : Int}

/-! ### The worth of a double -/

/-- The sign times the significand times the power of two, for a finite double. -/
def toRat (number : Double) : ℚ :=
  (if number.negative then -1 else 1) * number.significand * 2 ^ number.scale

/-- The double is finite and its worth is the integer. -/
structure Denotes (number : Double) (integer : Int) : Prop where
  finite : number.isFinite = true
  worth : number.toRat = integer

theorem magnitude_pos (number : Double) : 0 < number.magnitude.2 := by
  unfold magnitude
  split
  · exact Nat.one_pos
  · rw [Nat.one_shiftLeft]
    exact Nat.two_pow_pos _

theorem magnitude_div (number : Double) :
    (number.magnitude.1 : ℚ) / number.magnitude.2 = number.significand * 2 ^ number.scale := by
  unfold magnitude
  split
  case isTrue whole =>
    obtain ⟨power, scaleEq⟩ := Int.eq_ofNat_of_zero_le whole
    rw [scaleEq, Int.toNat_natCast, Nat.shiftLeft_eq, zpow_natCast]
    push_cast
    ring
  case isFalse part =>
    obtain ⟨power, scaleEq⟩ : ∃ power : Nat, number.scale = -(power : Int) :=
      ⟨(-number.scale).toNat, by omega⟩
    rw [scaleEq, neg_neg, Int.toNat_natCast, Nat.one_shiftLeft, zpow_neg, zpow_natCast]
    push_cast
    ring

theorem toRat_eq (number : Double) :
    number.toRat = (number.applySign number.magnitude.1 : ℚ) / number.magnitude.2 := by
  unfold toRat applySign
  rw [mul_assoc, ← magnitude_div]
  split
  · push_cast
    ring
  · push_cast
    ring

theorem applySign_eq_mul_iff (number : Double) {numerator denominator : Nat}
    (positive : 0 < denominator) :
    number.applySign numerator = integer * denominator ↔
      numerator % denominator = 0 ∧ number.applySign (numerator / denominator) = integer := by
  have divides : ∀ quotient : Int, (numerator : Int) = quotient * denominator ↔
      numerator % denominator = 0 ∧ ((numerator / denominator : Nat) : Int) = quotient := by
    intro quotient
    constructor
    · intro product
      have divisible : (denominator : Int) ∣ numerator := ⟨quotient, by rw [product, mul_comm]⟩
      refine ⟨Nat.mod_eq_zero_of_dvd (Int.natCast_dvd_natCast.mp divisible), ?_⟩
      rw [Int.natCast_ediv, product,
        Int.mul_ediv_cancel _ (Int.natCast_ne_zero.mpr (Nat.ne_of_gt positive))]
    · rintro ⟨divisible, rfl⟩
      rw [← Int.natCast_mul, Nat.div_mul_cancel (Nat.dvd_of_mod_eq_zero divisible)]
  unfold applySign
  split
  · rw [neg_eq_iff_eq_neg, ← Int.neg_mul, divides, neg_eq_iff_eq_neg]
  · exact divides integer

/-- Which integer a double is worth is settled by the quotient of natural numbers that
its fields hold. -/
theorem denotes_iff : number.Denotes integer ↔
    number.isFinite = true ∧ number.magnitude.1 % number.magnitude.2 = 0 ∧
      number.applySign (number.magnitude.1 / number.magnitude.2) = integer := by
  have positive := number.magnitude_pos
  have worth : number.toRat = integer ↔
      number.applySign number.magnitude.1 = integer * number.magnitude.2 := by
    rw [toRat_eq, div_eq_iff (by exact_mod_cast Nat.ne_of_gt positive)]
    exact_mod_cast Iff.rfl
  rw [← applySign_eq_mul_iff number positive, ← worth]
  exact ⟨fun denotes => ⟨denotes.finite, denotes.worth⟩, fun facts => ⟨facts.1, facts.2⟩⟩

/-- The integer that is found in the fields of a double is the one that it is worth. -/
theorem toInt?_eq_some_iff : number.toInt? = some integer ↔ number.Denotes integer := by
  rw [denotes_iff]
  unfold toInt? truncate
  constructor
  · intro found
    split at found
    case isTrue whole =>
      rw [Bool.and_eq_true, beq_iff_eq] at whole
      rw [if_pos whole.1] at found
      exact ⟨whole.1, whole.2, Option.some.inj found⟩
    case isFalse => cases found
  · rintro ⟨finite, divisible, quotient⟩
    rw [if_pos (by simp [finite, divisible]), if_pos finite, quotient]

/-! ### Base sixteen -/

theorem significand_eq_zero_iff :
    number.significand = 0 ↔ number.exponent.val = 0 ∧ number.fraction.val = 0 := by
  unfold significand
  split
  · next subnormal => simp [subnormal]
  · next normal => simp [normal, leadingOne]

theorem magnitude_eq_zero_iff : number.magnitude.1 = 0 ↔ number.significand = 0 := by
  unfold magnitude
  split
  · simp [Nat.shiftLeft_eq]
  · exact Iff.rfl

theorem isNegativeZero_iff :
    number.isNegativeZero = true ↔ number.negative = true ∧ number.magnitude.1 = 0 := by
  rw [magnitude_eq_zero_iff, significand_eq_zero_iff]
  simp [isNegativeZero, and_assoc]

theorem hexMagnitude_of_whole (finite : number.isFinite = true)
    (divisible : number.magnitude.1 % number.magnitude.2 = 0) :
    number.hexMagnitude = Hexadecimal.digits (number.magnitude.1 / number.magnitude.2) := by
  simp [hexMagnitude, isNotANumber, finite, divisible, fractionDigits]

/-- An integral double is written like the integer that it is worth, and so a negative
zero like zero. -/
theorem hexText_of_denotes (denotes : number.Denotes integer) :
    number.hexText = Hexadecimal.render integer := by
  obtain ⟨finite, divisible, rfl⟩ := denotes_iff.mp denotes
  have isNumber : number.isNotANumber = false := by simp [isNotANumber, finite]
  rw [hexText, hexMagnitude_of_whole finite divisible, isNumber, applySign, Hexadecimal.render]
  cases negative : number.negative with
  | false => rfl
  | true =>
    by_cases zero : number.magnitude.1 = 0
    · rw [isNegativeZero_iff.mpr ⟨negative, zero⟩, zero, Nat.zero_div]
      rfl
    · have signed : number.isNegativeZero = false :=
        Bool.eq_false_iff.mpr fun found => zero (isNegativeZero_iff.mp found).2
      have positive : number.magnitude.1 / number.magnitude.2 ≠ 0 := fun none =>
        zero (Nat.eq_zero_of_dvd_of_div_eq_zero (Nat.dvd_of_mod_eq_zero divisible) none)
      obtain ⟨less, succEq⟩ := Nat.exists_eq_succ_of_ne_zero positive
      rw [signed, succEq]
      rfl

theorem denotes_signedZero (negative : Bool) : (signedZero negative).Denotes 0 := by
  refine ⟨rfl, ?_⟩
  simp [toRat, significand, signedZero]

end Double

/-! ### The statement about texts -/

/-- The text of an integer is a sign, if it is negative, the marker, and digits without
a leading zero, and it reads back as the integer. A text of that shape is the text of the
integer that it reads as, unless it is a negative zero, which is the text of none. A
double that is worth an integer has the text of that integer. -/
theorem Hexadecimal.render_canonical :
    (∀ integer : Int,
      (∃ digits, Spells (render integer) (decide (integer < 0)) digits) ∧
        read? (render integer) = some integer) ∧
    (∀ text negative digits, Spells text negative digits →
      (text ≠ "-0x0" ↔ ∃ integer, read? text = some integer ∧ render integer = text)) ∧
    (∀ (number : Double) (integer : Int), number.Denotes integer →
      number.hexText = render integer) ∧
    (Double.signedZero true).hexText = "0x0" := by
  refine ⟨?_, ?_, ?_, ?_⟩
  · intro integer
    exact ⟨⟨_, spells_render integer⟩, read?_render integer⟩
  · intro text negative digits spells
    constructor
    · intro signed
      exact ⟨_, spells.read, spells.render_eq signed⟩
    · rintro ⟨integer, reads, same⟩ rfl
      have zero : integer = 0 := (Option.some.inj reads).symm
      rw [zero] at same
      exact absurd same (by decide)
  · intro number integer denotes
    exact Double.hexText_of_denotes denotes
  · rw [Double.hexText_of_denotes (Double.denotes_signedZero true)]
    rfl

/-- A negative text, and the double after `2 ^ 53`. -/
theorem Hexadecimal.render_canonical_signed :
    Spells "-0x1f" true ['1', 'f'] ∧ "-0x1f" ≠ "-0x0" ∧
    (∃ integer, read? "-0x1f" = some integer ∧ render integer = "-0x1f") ∧
    Double.Denotes ⟨false, 1076, 1⟩ 9007199254740994 ∧
    Double.hexText ⟨false, 1076, 1⟩ = "0x20000000000002" := by
  obtain ⟨_, texts, doubles, _⟩ := render_canonical
  have spells : Spells "-0x1f" true ['1', 'f'] := ⟨by decide, canonical_digits 31⟩
  have signed : "-0x1f" ≠ "-0x0" := by decide
  have denotes : Double.Denotes ⟨false, 1076, 1⟩ 9007199254740994 :=
    Double.toInt?_eq_some_iff.mp (by decide)
  refine ⟨spells, signed, (texts _ _ _ spells).mp signed, denotes, ?_⟩
  rw [doubles _ _ denotes]
  decide

end ReaderTrace
