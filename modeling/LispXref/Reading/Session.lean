-- A reader kept between steps: its text and the offset where it stands. Each
-- step gives an answer and the reader afterwards. After a fault the reader
-- stands where reading stopped, and later steps go on from there.
import LispXref.Reading.Scan

namespace LispXref.Reading

variable [CharacterNames]

/-- A reader: a text and an offset, which may lie behind the end. -/
structure Session where
  text : Text
  pos : Nat

namespace Session

/-- A reader at the start of a text. -/
def ofText (text : Text) : Session := ⟨text, 0⟩

/-- The same text read from another offset on. -/
def seek (s : Session) (pos : Nat) : Session := { s with pos }

/-- Lets go of the text. -/
def close (_ : Session) : Session := ⟨[], 0⟩

/-- The next top-level form, or nothing. When the text ran out the reader stands
at its end. -/
def readNext (s : Session) : Except Fault (Option Positioned) × Session :=
  match nextForm (.ofText s.text s.pos) with
  | .done p next => (.ok p, s.seek next.pos)
  | .truncated _ => (.ok none, s.seek s.text.length)
  | .failed fault stop => (.error fault, s.seek stop)

/-- All complete top-level forms, from the start of the text. -/
def readAll (s : Session) : Except Fault (List Positioned) × Session :=
  match readForms (.ofText s.text 0) with
  | .ok forms => (.ok forms, s.seek s.text.length)
  | .error halt => (.error halt.fault, s.seek halt.stop)

/-- The span of the expression at or after an offset, if it ends by the limit. -/
def scan (s : Session) (pos : Nat) (limit : Option Int) : Except Fault (Option Span) × Session :=
  match Reading.scan (.ofText s.text pos) with
  | .done span next => (.ok (span.filter fun e => limit.all (e.stop ≤ ·)), s.seek next.pos)
  | .truncated stop => (.ok none, s.seek stop)
  | .failed fault stop => (.error fault, s.seek stop)

end Session

end LispXref.Reading
