-- From the paths a user gives to the files to search. A file is taken as it is. A
-- directory stands for the files below it with one of the endings, except those
-- inside an excluded directory. Files come in the order of their locations, each
-- once.
import LispXref.Corpus.Select
import LispXref.Corpus.Utf8
import LispXref.Search
import LispXref.Text.Newline

namespace LispXref.Corpus

/-- Why no files can be given. -/
inductive Error where
  | notFound (path : PathName)
  | pattern (e : Glob.Error)
  deriving DecidableEq

def Error.message : Error → Text
  | .notFound path => Text.of "No such file or directory: " ++ path.toText
  | .pattern e => e.message

/-- Puts a location in its place, unless it is there. -/
def insertLocation (l : Location) : List Location → List Location
  | [] => [l]
  | m :: rest =>
    if l = m then m :: rest
    else if Location.le l m then l :: m :: rest
    else m :: insertLocation l rest

/-- Whether one of the directories on the way to a file is excluded. -/
def isExcluded (excluded : List Text) (names : List Text) : Bool :=
  names.dropLast.any excluded.contains

/-- The files below a directory with one ending. -/
def filesWithEnding (t : FileTree) (dir : Location) (excluded : List Text) (ending : Text) :
    Except Glob.Error (List Location) :=
  match Glob.parsePath (Text.of "*" ++ ending) with
  | .error e => .error e
  | .ok levels =>
    let routes := (select t levels (.start dir)).filter fun r =>
      t.isFile r.location && !isExcluded excluded r.names
    .ok (routes.map (·.location))

/-- The files that one path stands for. -/
def filesOf (t : FileTree) (cwd : Location) (endings excluded : List Text) (path : PathName) :
    Except Error (List Location) :=
  match t.locate cwd path with
  | none => .error (.notFound path)
  | some l =>
    if t.isFile l then .ok [l]
    else match endings.mapM (filesWithEnding t l excluded) with
      | .ok found => .ok found.flatten
      | .error e => .error (.pattern e)

/-- The files that paths stand for, in order. The first path that stands for
nothing is reported. -/
def discover (t : FileTree) (cwd : Location) (endings excluded : List Text) (paths : List Text) :
    Except Error (List Location) :=
  match (paths.map PathName.parse).mapM (filesOf t cwd endings excluded) with
  | .ok found => .ok (found.flatten.foldl (fun files l => insertLocation l files) [])
  | .error e => .error e

/-- Reads the file at a path, if it is there and is UTF-8. Line breaks become line
feeds. -/
def load? (t : FileTree) (cwd : Location) (path : Text) : Option SourceFile := do
  let l ← t.locate cwd (.parse path)
  let text ← Utf8.decode (← t.file? l)
  return ⟨path, text.unifyNewlines⟩

/-- Reads files, passing over those that cannot be read. -/
def load (t : FileTree) (cwd : Location) (paths : List Text) : List SourceFile :=
  paths.filterMap (load? t cwd)

end LispXref.Corpus
