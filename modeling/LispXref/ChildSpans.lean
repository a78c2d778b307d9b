-- The spans of a compound's immediate children, worked out from the text and the
-- compound's own span by scanning one expression after another.
import LispXref.Reading.Scan

namespace LispXref

open Reading

variable [CharacterNames]

/-- The shorthand mark at the start of a text. -/
def shorthandAt? (t : Text) : Option Shorthand :=
  Shorthand.all.find? fun s => t.startsWith s.mark

/-- The width of the opening bracket at the start of a text. -/
def openerWidth? (t : Text) : Option Nat :=
  if t.startsWith (Text.of "#s(") then some 3
  else if t.startsWith (Text.of "#[") then some 2
  else if t.startsWith (Text.of "(") then some 1
  else if t.startsWith (Text.of "[") then some 1
  else none

/-- The spans of the expressions from a place on, up to the first that does not
end by the limit. -/
def expressionSpans (cur : Cursor) (limit : Int) : Except Fault (List Span) :=
  match _h : scan cur with
  | .done (some s) next =>
    if s.stop ≤ limit then
      match expressionSpans next limit with
      | .ok spans => .ok (s :: spans)
      | .error fault => .error fault
    else .ok []
  | .done none _ => .ok []
  | .truncated _ => .ok []
  | .failed fault _ => .error fault
termination_by cur.rest.length
decreasing_by exact (scan_advances _h).length_lt

/-- The spans of the children of the compound at a span. A shorthand form has two,
its mark and the expression after the mark. The children of a bracketed compound
end before its closing delimiter, the last character of the span. Anything else
has no children. -/
def childSpans (text : Text) (span : Span) : Except Fault (List Span) :=
  let start := span.start.toNat
  let here := text.drop start
  match shorthandAt? here with
  | some s =>
    let inside := start + s.mark.length
    let head := Span.ofNat start inside
    match scan (.ofText text inside) with
    | .done (some inner) _ => .ok (if inner.stop ≤ span.stop then [head, inner] else [head])
    | .done none _ => .ok [head]
    | .truncated _ => .ok [head]
    | .failed fault _ => .error fault
  | none =>
    match openerWidth? here with
    | some width => expressionSpans (.ofText text (start + width)) (span.stop - 1)
    | none => .ok []

end LispXref
