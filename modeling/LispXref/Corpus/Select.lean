-- Following a pattern through a tree. A pattern can lead to the same place in
-- several ways, and a way can go up and down again, so ways are kept as they went.
import LispXref.Corpus.Glob
import LispXref.Corpus.Tree

namespace LispXref.Corpus

/-- A way through a tree: the names that were followed, and where they led. -/
structure Route where
  names : List Text
  location : Location

namespace Route

/-- The way that goes nowhere. -/
def start (dir : Location) : Route := ⟨[], dir⟩

/-- Follows one more name. -/
def step (r : Route) (name : Text) : Route := ⟨r.names ++ [name], PathName.step r.location name⟩

/-- Follows names downward. -/
def descend (r : Route) (names : List Text) : Route := ⟨r.names ++ names, r.location ++ names⟩

end Route

/-- The ways on from the end of a route that fit a pattern. -/
def select (t : FileTree) : List Glob.Level → Route → List Route
  | [], r => [r]
  | .anyDepth :: levels, r =>
    (t.directoriesFrom r.location).flatMap fun names => select t levels (r.descend names)
  | .name items :: levels, r =>
    ((t.namesIn r.location).filter (Glob.fits items)).flatMap fun name => select t levels (r.step name)
  | .parent :: levels, r =>
    if t.isDirectory r.location then select t levels (r.step (Text.of "..")) else []
  | .directory :: _, _ => []

end LispXref.Corpus
