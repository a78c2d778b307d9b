-- Reading a whole text: its top-level forms, each with its span and the table of
-- its symbol tokens. A text that ends in the middle of a form is no fault; the
-- forms before are what it holds.
import LispXref.Reading.Form
import LispXref.Span

namespace LispXref.Reading

/-- A top-level form, where it stands, and its symbol tokens, whose offsets count
from the form's start. -/
structure Positioned where
  form : Form
  span : Span
  occurrences : List Occurrence
  deriving DecidableEq

namespace Positioned

/-- A piece of text read between two offsets. -/
def ofPiece (start stop : Nat) (p : Piece) : Positioned :=
  ⟨p.form, .ofNat start stop, p.occurrences.map fun o => { o with offset := o.offset - start }⟩

/-- Whether a symbol token of the form is the symbol. -/
def mentions (p : Positioned) (s : Symbol) : Bool := p.occurrences.any fun o => o.symbol = s

/-- Where the symbol's tokens stand in the text. -/
def spansOf (p : Positioned) (s : Symbol) : List Span :=
  (p.occurrences.filter fun o => o.symbol = s).map fun o =>
    (Span.ofNat o.offset (o.offset + o.length)).shift p.span.start

end Positioned

variable [CharacterNames]

/-- The next top-level form, or nothing at the end of the text. -/
def nextForm (cur : Cursor) : Outcome (Option Positioned) :=
  (lex cur).bind fun x next =>
    match x with
    | none => .done none next
    | some x => (readForm x next).bind fun p after => .done (some (.ofPiece x.start after.pos p)) after

/-- A form has at least one character. -/
theorem nextForm_advances {cur next : Cursor} {p : Positioned}
    (h : nextForm cur = .done (some p) next) : cur.Advances next := by
  obtain ⟨x, mid, hx, hp⟩ := Outcome.bind_eq_done.1 h
  cases x with
  | none => cases hp
  | some x =>
    obtain ⟨q, after, hq, hn⟩ := Outcome.bind_eq_done.1 hp
    cases hn
    exact (lex_advances hx).trans_reaches (readForm_from x mid q _ hq)

/-- A fault, and the offset where reading stopped. -/
structure Halt where
  fault : Fault
  stop : Nat

/-- All complete top-level forms from a place on. -/
def readForms (cur : Cursor) : Except Halt (List Positioned) :=
  match _h : nextForm cur with
  | .done (some p) next =>
    match readForms next with
    | .ok forms => .ok (p :: forms)
    | .error halt => .error halt
  | .done none _ => .ok []
  | .truncated _ => .ok []
  | .failed fault stop => .error ⟨fault, stop⟩
termination_by cur.rest.length
decreasing_by exact (nextForm_advances _h).length_lt

/-- All complete top-level forms of a text. -/
def readAll (text : Text) : Except Fault (List Positioned) :=
  match readForms ⟨0, text⟩ with
  | .ok forms => .ok forms
  | .error halt => .error halt.fault

end LispXref.Reading
