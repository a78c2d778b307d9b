-- Half-open ranges of offsets into a text.

namespace LispXref

/-- The offsets from `start` up to, but not including, `stop`. -/
structure Span where
  start : Int
  stop : Int
  deriving DecidableEq

namespace Span

/-- The span between two offsets of a text. -/
def ofNat (start stop : Nat) : Span := ⟨start, stop⟩

/-- Moves both ends by the same distance. -/
def shift (s : Span) (distance : Int) : Span := ⟨s.start + distance, s.stop + distance⟩

/-- Whether two spans share an offset or, if one is empty, whether it lies
strictly inside the other. -/
def overlaps (a b : Span) : Bool := decide (a.start < b.stop ∧ b.start < a.stop)

end Span

end LispXref
