-- The command line program: it looks at the file system and the environment, runs
-- the command line over what it saw, and prints what is to be shown. It knows few character
-- names, and prints in UTF-8 whatever the terminal takes.
import LispXref.Command.Arguments
import LispXref.Reading.SomeNames
import LispXref.TagConsole

namespace LispXref.Program

open Command

/-- A text for printing; a surrogate is printed as U+FFFD. -/
def shown (t : Text) : String :=
  String.ofList (t.map fun c => c.toChar?.getD '\ufffd')

/-- Enters what lies at a path, files without their contents. -/
partial def survey (path : String) (location : Corpus.Location) (tree : Corpus.FileTree) :
    IO Corpus.FileTree := do
  let here ← IO.FS.realPath path
  if ← here.isDir then
    let mut seen := tree.write location .directory
    for entry in ← here.readDir do
      seen ← survey (path ++ "/" ++ entry.fileName) (location ++ [Text.of entry.fileName]) seen
    return seen
  else if ← here.pathExists then
    return tree.write location (.file [])
  else
    return tree

/-- Reads a file's bytes. A file that cannot be read gets bytes that are no text, so
that it is passed over. -/
def readBytes (path : String) : IO (List UInt8) := do
  try
    return (← IO.FS.readBinFile path).toList
  catch _ =>
    return [0xFF]

/-- The variables that the program looks at. -/
def environment : IO Config.Environment := do
  let mut env := Config.Environment.empty
  for name in [Config.progressVariable, Config.policyVariable, Config.extensionsVariable,
      Config.excludedVariable] do
    if let some value ← IO.getEnv (shown name) then
      env := env.insert name (Text.of value)
  return env

/-- The encoding that the locale asks for, if it names one. -/
def localeEncoding : IO (Option Text) := do
  for name in ["LC_ALL", "LC_CTYPE", "LANG"] do
    if let some value ← IO.getEnv name then
      if !value.isEmpty then
        return ((Text.splitAt '.' (Text.of value)).drop 1).head?
  return none

/-- Reads lines until they choose a kind, or until there are no more. -/
partial def readReply (input : IO.FS.Stream) (sofar : Text) : IO Text := do
  IO.print ("What kind of reference? (" ++ shown kindNames ++ ") [function]: ")
  (← IO.getStdout).flush
  let line ← input.getLine
  let text := sofar ++ Text.of line
  if line.isEmpty || (repliedKind? text.readableLines).isSome then return text
  else readReply input text

/-- The files of a request and their contents. -/
def surveyRequest (cwd : Corpus.Location) (env : Config.Environment) (request : SearchRequest) :
    IO Corpus.FileTree := do
  let paths := if request.paths.isEmpty then [Text.of "."] else request.paths
  let mut tree := Corpus.FileTree.empty.write cwd .directory
  for path in request.pathStart.toList ++ paths do
    let location := (Corpus.PathName.parse path).resolve cwd
    if (← (IO.FS.realPath (shown location.toText)).toBaseIO) matches .ok _ then
      tree ← survey (shown location.toText) location tree
  match Corpus.discover tree cwd env.extensions env.excludedDirs paths with
  | .error _ => return tree
  | .ok files =>
    for location in files do
      tree := tree.write location (.file (← readBytes (shown location.toText)))
    return tree

/-- Prints a number in a column. -/
def column (n : Int) : String :=
  let digits := toString n
  "".pushn ' ' (6 - digits.length) ++ digits

/-- Prints one thing. -/
def print : Printed → IO Unit
  | .line text => IO.println (shown text)
  | .table title rows => do
    IO.println (shown title)
    IO.println ("  " ++ "  ".intercalate (Command.columns.map shown))
    for (line, col, text) in rows do
      IO.println (column line ++ column col ++ "  " ++ shown text)
  | .panel title code startLine highlight => do
    IO.println ("── " ++ shown title)
    let mut number := startLine
    for line in Text.splitAt '\n' code do
      let mark := if number = highlight then ">" else " "
      IO.println (mark ++ column number ++ "  " ++ shown line)
      number := number + 1

end LispXref.Program

open LispXref LispXref.Program in
open scoped LispXref.SomeNames LispXref.TagConsole in
/-- Runs the program. -/
def main (args : List String) : IO UInt32 := do
  let arguments := args.map Text.of
  let cwd := (Corpus.PathName.parse (Text.of (toString (← IO.currentDir)))).names
  let env ← environment
  let sanitizes := !Terminal.isUtf8 (Terminal.encoding none (← localeEncoding))
  let mut world : Command.World := ⟨.empty, cwd, env, none, sanitizes⟩
  if let .ok (.search request) := Command.parseRequest arguments then
    world := { world with tree := ← surveyRequest cwd env request }
    if request.choice matches .asked then
      world := { world with reply := Command.replyTo (← readReply (← IO.getStdin) []) }
  let ending := Command.runLine world arguments
  for item in ending.printed do
    print item
  if let some u := ending.uncaught then
    IO.eprintln (shown u.message)
  return ending.status.toUInt32
