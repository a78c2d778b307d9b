-- Paths: as they are written, and as locations, which are the names on the way
-- from the root of the file system. Empty names and single dots in a written path
-- mean nothing and are dropped; two dots lead to the parent.
import LispXref.Text.Basic

namespace LispXref.Corpus

/-- The names on the way from the root. -/
abbrev Location := List Text

namespace Location

/-- A location as an absolute path. -/
def toText (l : Location) : Text := Text.of "/" ++ Text.join (Text.of "/") l

/-- The location above; the root is its own parent. -/
def parent (l : Location) : Location := l.dropLast

/-- Locations are ordered name by name. -/
def le : Location → Location → Bool
  | [], _ => true
  | _ :: _, [] => false
  | a :: as, b :: bs => if a = b then le as bs else Text.le a b

end Location

/-- A written path: its root, which is empty for a relative path, and its names. -/
structure PathName where
  root : Text
  names : List Text
  deriving DecidableEq

namespace PathName

/-- The root of a written path. Exactly two slashes in front are kept, any other
number of them is one. -/
def rootOf (t : Text) : Text :=
  match (t.takeWhile (· = CodePoint.ofChar '/')).length with
  | 0 => []
  | 2 => Text.of "//"
  | _ => Text.of "/"

/-- Reads a path as it is written. -/
def parse (t : Text) : PathName :=
  ⟨rootOf t, (Text.splitAt '/' t).filter fun name => !name.isEmpty && name ≠ Text.of "."⟩

/-- The path without what means nothing; a dot if nothing is left. -/
def toText (p : PathName) : Text :=
  if p.root.isEmpty && p.names.isEmpty then Text.of "."
  else p.root ++ Text.join (Text.of "/") p.names

/-- Where a path starts, seen from a working directory. -/
def origin (p : PathName) (cwd : Location) : Location := if p.root.isEmpty then cwd else []

/-- One step of a path. -/
def step (l : Location) (name : Text) : Location :=
  if name = Text.of ".." then l.parent else l ++ [name]

/-- The location of a path, whether or not anything is there. -/
def resolve (p : PathName) (cwd : Location) : Location := p.names.foldl step (p.origin cwd)

end PathName

/-- A path as shown to a user in a working directory: relative if it lies below the
directory, and as it is otherwise. -/
def displayPath (cwd : Location) (path : Text) : Text :=
  let p := PathName.parse path
  if p.root = Text.of "/" && cwd.isPrefixOf p.names then
    PathName.toText ⟨[], p.names.drop cwd.length⟩
  else path

end LispXref.Corpus
