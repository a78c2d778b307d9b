-- Offsets as lines and columns, and the pieces of text that reports show. Line and
-- column numbers start at 1. Offsets and line numbers may also be negative or lie
-- behind the end; then they count from the end where an index is needed.
import LispXref.Text.Slice

namespace LispXref

/-- A text and the offsets at which its lines start. -/
structure LineIndex where
  text : Text
  starts : List Nat

namespace LineIndex

/-- The offsets after the line breaks of a text that starts at `pos`. -/
def startsFrom (pos : Nat) : Text → List Nat
  | [] => []
  | c :: rest => if c = '\n' then (pos + 1) :: startsFrom (pos + 1) rest else startsFrom (pos + 1) rest

def ofText (text : Text) : LineIndex := ⟨text, 0 :: startsFrom 0 text⟩

/-- The number of lines. -/
def lineCount (ix : LineIndex) : Nat := ix.starts.length

/-- The line and column of an offset. -/
def position (ix : LineIndex) (offset : Int) : Int × Int :=
  let line : Nat := ix.starts.countP fun (s : Nat) => decide ((s : Int) ≤ offset)
  (line, offset - ((signedGet? ix.starts (line - 1)).getD 0 : Nat) + 1)

/-- The text of a line, without its line break; nothing if there is no such line. -/
def lineText? (ix : LineIndex) (line : Int) : Option Text := do
  let start ← signedGet? ix.starts (line - 1)
  let stop : Int ←
    if line < ix.lineCount then (signedGet? ix.starts line).map fun s => (s : Int) - 1
    else some ix.text.length
  return slice ix.text start stop

/-- The numbered lines from one number to another. -/
def numberedLines? (ix : LineIndex) (low high : Int) : Option (List (Int × Text)) :=
  (List.range (high - low + 1).toNat).mapM fun (i : Nat) => do
    return (low + i, ← ix.lineText? (low + i))

/-- The lines of a span, with as many more before and after it as asked. -/
def context? (ix : LineIndex) (start stop : Int) (around : Int) : Option (List (Int × Text)) :=
  let first := (ix.position start).1
  let last := (ix.position (max start (stop - 1))).1
  ix.numberedLines? (max 1 (first - around)) (min ix.lineCount (last + around))

end LineIndex

/-- The mark of a shortened text. -/
def ellipsis : CodePoint := '…'

/-- The first line of a piece of text, cut to a width. An ellipsis shows that
something is missing. -/
def snippet (text : Text) (start stop : Int) (width : Int) : Text :=
  let piece := slice text start stop
  let line := piece.takeWhile (· ≠ CodePoint.ofChar '\n')
  let shown := if line.length < piece.length then line ++ [CodePoint.ofChar ' ', ellipsis] else line
  if width < shown.length then slice shown 0 (width - 1) ++ [ellipsis] else shown

/-- The width of a snippet in a report. -/
def snippetWidth : Int := 80

end LispXref
