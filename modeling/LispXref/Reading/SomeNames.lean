-- A small data base of character names, in which the program and the examples look names
-- up. Letter case does not matter. It has a few names only, and any other name is unknown
-- to it; what is said of all data bases does not depend on it.
import LispXref.Reading.CharacterName

namespace LispXref.SomeNames

/-- The names that are known, and what they stand for. -/
def entries : List (String × Text) :=
  [("LATIN SMALL LETTER E WITH ACUTE", Text.of "é"),
   ("GREEK SMALL LETTER ALPHA", Text.of "α"),
   ("SNOWMAN", Text.of "☃"),
   ("GRINNING FACE", Text.of "😀"),
   ("KEYCAP DIGIT ONE", Text.of "1\ufe0f\u20e3")]

/-- The data base with these names. -/
scoped instance names : CharacterNames where
  lookup? name :=
    let key (t : Text) : Text := t.map CodePoint.lowerAscii
    (entries.find? fun entry => key (Text.of entry.1) = key name).map (·.2)

end LispXref.SomeNames
