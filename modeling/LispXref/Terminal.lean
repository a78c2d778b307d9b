-- What a terminal can show. Reports use three glyphs beyond ASCII; a terminal that
-- does not take UTF-8 gets ASCII stand-ins for them.
import LispXref.Text.Lower

namespace LispXref.Terminal

/-- The glyphs and their stand-ins. -/
def icons : List (CodePoint × Text) :=
  [('✓', Text.of "[OK]"), ('⚠', Text.of "[WARN]"), ('…', Text.of "...")]

/-- The names of UTF-8. -/
def utf8Names : List Text := [Text.of "utf-8", Text.of "utf8", Text.of "utf_8"]

/-- The encoding of a terminal in lower case: the one it declares, else the
preferred one of the locale, else ASCII. Empty names do not count. -/
def encoding (declared preferred : Option Text) : Text :=
  let named := (declared.filter (!·.isEmpty)).or (preferred.filter (!·.isEmpty))
  match named with
  | some name => name.lower
  | none => Text.of "ascii"

/-- Whether an encoding can show the glyphs. -/
def isUtf8 (encoding : Text) : Bool := encoding ∈ utf8Names

/-- Replaces every glyph, one after the other. -/
def replaceIcons (text : Text) : Text :=
  icons.foldl (fun t icon => t.substitute icon.1 icon.2) text

/-- The text as a terminal can show it. -/
def sanitize (encoding : Text) (force : Bool) (text : Text) : Text :=
  if !force && isUtf8 encoding then text else replaceIcons text

end LispXref.Terminal
