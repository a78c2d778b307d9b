-- A file system as it was found: files with their contents, and directories. A
-- directory is there if it was entered itself or if something lies below it. There
-- are no symbolic links.
import LispXref.Corpus.Path

namespace LispXref.Corpus

/-- What a location holds. -/
inductive Entry where
  | file (content : List UInt8)
  | directory

/-- What was found, the latest first. -/
structure FileTree where
  entries : List (Location × Entry)

namespace FileTree

def empty : FileTree := ⟨[]⟩

/-- Puts something at a location. -/
def write (t : FileTree) (l : Location) (e : Entry) : FileTree := ⟨(l, e) :: t.entries⟩

/-- The content of the file at a location. -/
def file? (t : FileTree) (l : Location) : Option (List UInt8) :=
  match t.entries.find? fun e => e.1 = l with
  | some (_, .file content) => some content
  | _ => none

def isFile (t : FileTree) (l : Location) : Bool := (t.file? l).isSome

/-- Whether a location lies strictly below another. -/
def isBelow (l dir : Location) : Bool := dir.isPrefixOf l && l ≠ dir

/-- Whether there is a directory at a location. The root always is one. -/
def isDirectory (t : FileTree) (l : Location) : Bool :=
  l.isEmpty || t.entries.any fun e =>
    isBelow e.1 l || (e.1 = l && match e.2 with
      | .directory => true
      | .file _ => false)

/-- One step of a path that has to exist. -/
def follow (t : FileTree) (l : Location) (name : Text) : Option Location :=
  let next := PathName.step l name
  if t.isDirectory l && (t.isFile next || t.isDirectory next) then some next else none

/-- The location of a path, if everything on the way is there. -/
def locate (t : FileTree) (cwd : Location) (p : PathName) : Option Location :=
  p.names.foldlM t.follow (p.origin cwd)

/-- The names of what lies directly in a directory. -/
def namesIn (t : FileTree) (dir : Location) : List Text :=
  ((t.entries.map (·.1)).filter fun l => isBelow l dir).filterMap
    (fun l => (l.drop dir.length).head?) |>.eraseDups

/-- The beginnings of a list, the empty one first. -/
def beginnings {α : Type} : List α → List (List α)
  | [] => [[]]
  | a :: as => [] :: (beginnings as).map (a :: ·)

/-- The ways down from a directory to a directory, among them the empty one, which
leads nowhere else. -/
def directoriesFrom (t : FileTree) (dir : Location) : List (List Text) :=
  let below := ((t.entries.map (·.1)).filter fun l => isBelow l dir).map fun l => l.drop dir.length
  (([] :: below.flatMap beginnings).eraseDups).filter fun names => t.isDirectory (dir ++ names)

end FileTree

end LispXref.Corpus
