/-!
Integers written in base sixteen, with a sign in front of the marker `0x`.

Digits are lower case and carry no leading zero, so an integer has one text.
Nothing here bounds the integer: addresses, flags and counters of any size go
through the same function.
-/

namespace ReaderTrace.Hexadecimal

/-- The digits of a natural number, most significant first; zero is one digit. -/
def digits (number : Nat) : List Char :=
  Nat.toDigits 16 number

def marker : List Char :=
  ['0', 'x']

def chars : Int → List Char
  | .ofNat number => marker ++ digits number
  | .negSucc number => '-' :: (marker ++ digits (number + 1))

/-- The text of an integer: `0x1f`, `-0x10`, `0x0`. -/
def render (number : Int) : String :=
  String.ofList (chars number)

end ReaderTrace.Hexadecimal
