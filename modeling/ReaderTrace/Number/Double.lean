import ReaderTrace.Number.Hexadecimal

/-!
Double precision numbers, held field by field as in their 64-bit interchange
format.

A finite double is a natural number times a power of two, so every question
asked here (is it integral, what is left after truncation, which double is
nearest to a quotient) is settled in exact integer arithmetic. The machine's
floating point type is not used.
-/

namespace ReaderTrace

abbrev leadingOne : Nat :=
  0x10000000000000

structure Double where
  negative : Bool
  exponent : Fin 2048
  fraction : Fin leadingOne
deriving DecidableEq

namespace Double

/-! ### Reading the fields -/

/-- The largest exponent field marks the infinities and the non-numbers. -/
def isFinite (number : Double) : Bool :=
  number.exponent.val != 2047

def isNotANumber (number : Double) : Bool :=
  !number.isFinite && number.fraction.val != 0

/-- The leading one is implicit unless the exponent field is zero. -/
def significand (number : Double) : Nat :=
  if number.exponent.val = 0 then number.fraction.val
  else leadingOne + number.fraction.val

def scale (number : Double) : Int :=
  (max number.exponent.val 1 : Nat) - 1075

def magnitude (number : Double) : Nat × Nat :=
  if 0 ≤ number.scale then (number.significand <<< number.scale.toNat, 1)
  else (number.significand, 1 <<< (-number.scale).toNat)

def applySign (number : Double) (magnitude : Nat) : Int :=
  if number.negative then -(magnitude : Int) else magnitude

/-- What is left when the fraction is dropped; the infinities and the
non-numbers count as zero. -/
def truncate (number : Double) : Int :=
  if number.isFinite then
    number.applySign (number.magnitude.1 / number.magnitude.2)
  else 0

/-- The integer that a double denotes, if it denotes one. Both zeros denote
zero. -/
def toInt? (number : Double) : Option Int :=
  if number.isFinite && number.magnitude.1 % number.magnitude.2 == 0 then
    some number.truncate
  else none

/-- Conversion to a 32-bit word: truncation, then reduction modulo `2 ^ 32`. -/
def toWord (number : Double) : BitVec 32 :=
  BitVec.ofInt 32 number.truncate

def isNegativeZero (number : Double) : Bool :=
  number.negative && number.exponent.val == 0 && number.fraction.val == 0

/-! ### Building doubles -/

def signedZero (negative : Bool) : Double :=
  ⟨negative, 0, 0⟩

def zero : Double :=
  signedZero false

def infinity (negative : Bool) : Double :=
  ⟨negative, 2047, 0⟩

def notANumber : Double :=
  ⟨false, 2047, 0x8000000000000⟩

/-- Exponent field and fraction read as one natural number; consecutive
magnitudes have consecutive codes, and what lies beyond the largest finite
code is an infinity. -/
def ofCode (negative : Bool) (code : Nat) : Double :=
  if inRange : code / leadingOne < 2047 then
    ⟨negative, ⟨code / leadingOne, Nat.lt_succ_of_lt inRange⟩,
      ⟨code % leadingOne, Nat.mod_lt _ (by decide)⟩⟩
  else infinity negative

/-- The nearest natural number to a quotient, a tie going to the even one. -/
def divideToEven (numerator denominator : Nat) : Nat :=
  let quotient := numerator / denominator
  let remainder := numerator % denominator
  if 2 * remainder < denominator then quotient
  else if denominator < 2 * remainder then quotient + 1
  else quotient + quotient % 2

def binaryExponent (numerator denominator : Nat) : Int :=
  let estimate : Int := (Nat.log2 numerator : Int) - Nat.log2 denominator
  if denominator <<< estimate.toNat ≤ numerator <<< (-estimate).toNat then estimate
  else estimate - 1

/-- The double nearest to a quotient of natural numbers, a tie going to the
even significand. The denominator is positive. -/
def ofQuotient (negative : Bool) (numerator denominator : Nat) : Double :=
  if numerator = 0 then signedZero negative
  else
    let scale := max (binaryExponent numerator denominator - 52) (-1074)
    let significand :=
      divideToEven (numerator <<< (-scale).toNat) (denominator <<< scale.toNat)
    ofCode negative ((scale + 1074).toNat * leadingOne + significand)

def ofInt (number : Int) : Double :=
  ofQuotient (number < 0) number.natAbs 1

/-! ### Base sixteen -/

/-- The digits after the point of `numerator / denominator`, without trailing
zeros. The fraction of a double ends within the bits of its denominator, so
as many steps as that has bits are always enough. -/
def fractionDigits (denominator : Nat) : Nat → Nat → List Char
  | 0, _ => []
  | _ + 1, 0 => []
  | steps + 1, numerator =>
      Nat.digitChar (numerator * 16 / denominator) ::
        fractionDigits denominator steps (numerator * 16 % denominator)

def hexMagnitude (number : Double) : List Char :=
  if number.isNotANumber then ['N', 'a', 'N']
  else if !number.isFinite then ['I', 'n', 'f', 'i', 'n', 'i', 't', 'y']
  else
    let (numerator, denominator) := number.magnitude
    let whole := Hexadecimal.digits (numerator / denominator)
    match fractionDigits denominator (Nat.log2 denominator + 1) (numerator % denominator) with
    | [] => whole
    | digits => whole ++ '.' :: digits

/-- The text of a double in base sixteen; negative zero has no sign. -/
def hexText (number : Double) : String :=
  let sign := number.negative && !number.isNegativeZero && !number.isNotANumber
  String.ofList ((if sign then ['-'] else []) ++ Hexadecimal.marker ++ number.hexMagnitude)

end Double

end ReaderTrace
