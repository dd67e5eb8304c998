import ReaderTrace.Number.Double

/-!
Decimal numerals of doubles: reading one to the nearest double, and writing
the shortest one that reads back.

`shortest` tries the decimal grids from coarse to fine and stops at the first
that has a point in the rounding interval of the double; `layout` decides
where the point goes and when an exponent is written. Neither looks at a
machine's floating point text.
-/

namespace ReaderTrace.Decimal

/-! ### Reading -/

def takeDigits (text : List Char) : List Char × List Char :=
  (text.takeWhile Char.isDigit, text.dropWhile Char.isDigit)

def digitsToNat (digits : List Char) : Nat :=
  digits.foldl (fun total digit => total * 10 + (digit.toNat - '0'.toNat)) 0

/-- The exponent part of a numeral: nothing, or `e` with an optional sign and
at least one digit. -/
def readExponent? : List Char → Option Int
  | [] => some 0
  | 'e' :: '-' :: digits => magnitude? digits |>.map fun number => -(number : Int)
  | 'e' :: '+' :: digits => magnitude? digits |>.map fun number => (number : Int)
  | 'e' :: digits => magnitude? digits |>.map fun number => (number : Int)
  | _ => none
where
  magnitude? (digits : List Char) : Option Nat :=
    if digits.isEmpty || !digits.all Char.isDigit then none else some (digitsToNat digits)

/-- The double nearest to `digits * 10 ^ exponent`. Values far outside the
range of doubles are settled before any power is computed. -/
def toDouble (negative : Bool) (digits : Nat) (exponent : Int) : Double :=
  let length : Int := (Nat.toDigits 10 digits).length
  if digits = 0 then .signedZero negative
  else if 400 < length + exponent then .infinity negative
  else if length + exponent < -400 then .signedZero negative
  else .ofQuotient negative (digits * Nat.pow 10 exponent.toNat) (Nat.pow 10 (-exponent).toNat)

def readUnsigned? (negative : Bool) (text : List Char) : Option Double :=
  let (whole, afterWhole) := takeDigits text
  let (fraction, afterFraction) :=
    match afterWhole with
    | '.' :: rest => takeDigits rest
    | rest => ([], rest)
  if whole.isEmpty && fraction.isEmpty then none
  else
    (readExponent? afterFraction).map fun exponent =>
      toDouble negative (digitsToNat (whole ++ fraction)) (exponent - fraction.length)

/-- The double nearest to a decimal numeral; also reads the three texts that
stand for the infinities and for a non-number. -/
def read? (text : String) : Option Double :=
  if text = "NaN" then some .notANumber
  else if text = "Infinity" then some (.infinity false)
  else if text = "-Infinity" then some (.infinity true)
  else
    match text.toList with
    | '-' :: rest => readUnsigned? true rest
    | rest => readUnsigned? false rest

/-! ### The shortest decimal -/

structure Scientific where
  digits : Nat
  exponent : Int
deriving DecidableEq

/-- The exponent of the largest power of ten that is at most a positive
quotient. -/
def decimalExponent (numerator denominator : Nat) : Int :=
  if denominator ≤ numerator then
    ((Nat.toDigits 10 (numerator / denominator)).length : Int) - 1
  else
    -((Nat.toDigits 10 ((denominator - 1) / numerator)).length : Int)

/-- The rounding interval of a positive double, in quarters of the unit of its
significand: the lower end, the value, the upper end, and whether the ends
belong to it. Below a power of two the gap is half as wide. -/
def roundingInterval (number : Double) : Nat × Nat × Nat × Bool :=
  let value := 4 * number.significand
  let gap := if number.fraction.val = 0 && 1 < number.exponent.val then 1 else 2
  (value - gap, value, value + 2, number.significand % 2 == 0)

/-- The point of the grid `10 ^ exponent` that is nearest to the value among
those in the rounding interval. A tie goes to the even point. -/
def pointOnGrid? (number : Double) (exponent : Int) : Option Scientific :=
  let (low, value, high, ends) := roundingInterval number
  let binary := number.scale - 2
  let scaleUp := Nat.pow 10 (-exponent).toNat <<< binary.toNat
  let unit := Nat.pow 10 exponent.toNat <<< (-binary).toNat
  let within (digits : Nat) : Bool :=
    let point := digits * unit
    if ends then low * scaleUp ≤ point && point ≤ high * scaleUp
    else low * scaleUp < point && point < high * scaleUp
  let below := value * scaleUp / unit
  let rest := value * scaleUp % unit
  let upperFirst := unit < 2 * rest || (unit == 2 * rest && below % 2 == 1)
  let candidates := if upperFirst then [below + 1, below] else [below, below + 1]
  (candidates.find? fun digits => 0 < digits && within digits).map fun digits =>
    { digits := digits, exponent := exponent }

def stripZeros : Nat → Scientific → Scientific
  | 0, decimal => decimal
  | bound + 1, decimal =>
      if decimal.digits % 10 = 0 then
        stripZeros bound { digits := decimal.digits / 10, exponent := decimal.exponent + 1 }
      else decimal

/-- The shortest decimal that reads back as a positive finite double, and of
those the nearest to it. Seventeen digits always suffice. -/
def shortest (number : Double) : Scientific :=
  let (numerator, denominator) := number.magnitude
  let leading := decimalExponent numerator denominator
  let found := (List.range 17).findSome? fun (count : Nat) => pointOnGrid? number (leading - count)
  stripZeros 17 (found.getD { digits := 0, exponent := 0 })

/-! ### Writing -/

def zeros (count : Nat) : List Char :=
  List.replicate count '0'

/-- Positional from `10 ^ -6` up to below `10 ^ 21`, otherwise one digit before
the point and a signed exponent. -/
def layout (decimal : Scientific) : List Char :=
  let digits := Nat.toDigits 10 decimal.digits
  let point := digits.length + decimal.exponent
  if digits.length ≤ point && point ≤ 21 then
    digits ++ zeros decimal.exponent.toNat
  else if 0 < point && point ≤ 21 then
    digits.take point.toNat ++ '.' :: digits.drop point.toNat
  else if -6 < point && point ≤ 0 then
    '0' :: '.' :: (zeros (-point).toNat ++ digits)
  else
    let exponent := point - 1
    let sign := if exponent < 0 then '-' else '+'
    let tail := 'e' :: sign :: Nat.toDigits 10 exponent.natAbs
    match digits with
    | [digit] => digit :: tail
    | first :: rest => first :: '.' :: (rest ++ tail)
    | [] => tail

/-- The text of a double. Both zeros are written alike. -/
def render (number : Double) : String :=
  if number.isNotANumber then "NaN"
  else
    let sign := if number.negative then ['-'] else []
    if !number.isFinite then String.ofList (sign ++ "Infinity".toList)
    else if number.significand = 0 then "0"
    else String.ofList (sign ++ layout (shortest number))

end ReaderTrace.Decimal
