/-!
Blank characters and the trimming of text.

The set is fixed here and does not follow the character classes of core, which
know fewer blanks.
-/

namespace ReaderTrace.Blank

/-- The blanks are tab to carriage return, the space separators, the line and
paragraph separators, and the byte order mark. -/
def isBlank (char : Char) : Bool :=
  let code := char.toNat
  (0x09 ≤ code && code ≤ 0x0D) || code == 0x20 || code == 0xA0 || code == 0x1680 ||
    (0x2000 ≤ code && code ≤ 0x200A) || code == 0x2028 || code == 0x2029 ||
    code == 0x202F || code == 0x205F || code == 0x3000 || code == 0xFEFF

def trim (text : List Char) : List Char :=
  ((text.dropWhile isBlank).reverse.dropWhile isBlank).reverse

end ReaderTrace.Blank
