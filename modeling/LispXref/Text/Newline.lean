-- Line breaks. A carriage return, alone or before a line feed, breaks a line like
-- a line feed does.
import LispXref.Text.Basic

namespace LispXref.Text

/-- The text with every line break as a line feed. -/
def unifyNewlines : Text → Text
  | [] => []
  | c :: rest =>
    if c = '\r' then
      match rest with
      | [] => ['\n']
      | d :: rest' => if d = '\n' then '\n' :: unifyNewlines rest' else '\n' :: unifyNewlines (d :: rest')
    else c :: unifyNewlines rest

/-- The pieces between line breaks, one more than there are breaks. -/
def lines (t : Text) : List Text := splitAt '\n' t.unifyNewlines

/-- The lines that can be read one after the other: a last line without a break
counts if it is not empty. -/
def readableLines (t : Text) : List Text :=
  let pieces := t.lines
  if pieces.getLast?.any List.isEmpty then pieces.dropLast else pieces

end LispXref.Text
