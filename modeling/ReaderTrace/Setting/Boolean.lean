import ReaderTrace.Text.Blank

/-!
The spellings of an on/off setting.

Any beginning of a spelling is accepted. The spellings are tried in order, so
`o` and the empty text mean on.
-/

namespace ReaderTrace.Setting

def spellings : List (String × Bool) :=
  [("on", true), ("1", true), ("yes", true), ("enable", true),
    ("off", false), ("0", false), ("no", false), ("disable", false)]

def readTrimmed? (text : List Char) : Option Bool :=
  (spellings.find? fun spelling => text.isPrefixOf spelling.1.toList).map (·.2)

/-- Reads the text of an on/off setting; `none` for text that begins no
spelling. -/
def readBoolean? (text : String) : Option Bool :=
  readTrimmed? (Blank.trim text.toList)

end ReaderTrace.Setting
