-- An indexer keeps one reader for a text and answers one request for child spans after the
-- other with it.
import LispXref.ChildSpans
import LispXref.Reading.Reader

namespace LispXref

open Reading

variable [CharacterNames]

/-- The spans of the expressions from an offset on, up to the first that does not end by
the limit, and the reader afterwards. -/
def Reading.Reader.expressionSpans (r : Reader) (pos : Nat) (limit : Int) :
    Except FileFault (List Span) × Reader :=
  match _h : r.scan pos (some limit) with
  | (.ok (some s), next) =>
    let others := next.expressionSpans s.stop.toNat limit
    (others.1.map (s :: ·), others.2)
  | (.ok none, next) => (.ok [], next)
  | (.error f, next) => (.error f, next)
termination_by r.text.length - pos
decreasing_by
  obtain ⟨htext, hlt, hle⟩ := Reader.scan_advances _h
  rw [htext]
  omega

/-- An indexer of the text that its reader reads. -/
structure Indexer where
  reader : Reader

namespace Indexer

/-- An indexer of the text of the file at a path. -/
def ofText (text path : Text) : Indexer := ⟨.ofText text path⟩

/-- Lets go of the text. -/
def close (ix : Indexer) : Indexer := ⟨ix.reader.close⟩

/-- The spans of the children of the compound at a span: the mark of a shorthand form and
the expression after it, or what stands between brackets. -/
def childSpans (ix : Indexer) (span : Span) : Except FileFault (List Span) × Indexer :=
  let start := span.start.toNat
  let here := ix.reader.text.drop start
  match shorthandAt? here with
  | some s =>
    let head := Span.ofNat start (start + s.mark.length)
    match ix.reader.scan (start + s.mark.length) (some span.stop) with
    | (.ok inner, next) => (.ok (head :: inner.toList), ⟨next⟩)
    | (.error f, next) => (.error f, ⟨next⟩)
  | none =>
    match openerWidth? here with
    | some width =>
      let found := ix.reader.expressionSpans (start + width) (span.stop - 1)
      (found.1, ⟨found.2⟩)
    | none => (.ok [], ix)

end Indexer

end LispXref
