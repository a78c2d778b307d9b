-- Texts in quotation marks, as messages show them. Single quotes are used
-- unless the text has single quotes and no double ones. Backslashes, the
-- quotation mark itself and everything unprintable are escaped, so the quoted
-- text shows exactly which code points it stands for.
import LispXref.Text.Printable

namespace LispXref.Text

/-- A number in lower-case hexadecimal, with zeros in front up to a width. -/
def hexPadded (width n : Nat) : Text :=
  let digits := ofNatBase 16 n
  List.replicate (width - digits.length) (CodePoint.ofChar '0') ++ digits

/-- One code point inside quotation marks. -/
def escapeFor (mark : CodePoint) (c : CodePoint) : Text :=
  if c = mark ∨ c = '\\' then ['\\', c]
  else if c = '\n' then of "\\n"
  else if c = '\r' then of "\\r"
  else if c = '\t' then of "\\t"
  else if c.isPrintable then [c]
  else if c.val < 0x100 then of "\\x" ++ hexPadded 2 c.val
  else if c.val < 0x10000 then of "\\u" ++ hexPadded 4 c.val
  else of "\\U" ++ hexPadded 8 c.val

/-- The mark that a quoted text takes: double quotes only where they save
escapes. -/
def quotationMark (t : Text) : CodePoint :=
  if (CodePoint.ofChar '\x27') ∈ t ∧ (CodePoint.ofChar '\x22') ∉ t then '\x22' else '\x27'

/-- The text in quotation marks. -/
def quote (t : Text) : Text :=
  let mark := quotationMark t
  mark :: t.flatMap (escapeFor mark) ++ [mark]

end LispXref.Text
