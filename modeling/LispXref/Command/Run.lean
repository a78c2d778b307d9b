-- Running a request over a file system, an environment and the user's reply: what is
-- shown, and with which status the program ends. Progress, the prompt and help are shown
-- apart from that.
import LispXref.Command.Report
import LispXref.Command.Request
import LispXref.Config.Basic
import LispXref.Corpus.Basic
import LispXref.Terminal

namespace LispXref.Command

open Reading
open Console (escape)

variable [CharacterNames] [Console]

/-- What a run can see. -/
structure World where
  tree : Corpus.FileTree
  cwd : Corpus.Location
  environment : Config.Environment
  /-- What the user replies when asked for a kind, if there is a reply. -/
  reply : Option Text
  /-- Whether messages are shown with ASCII stand-ins for glyphs. -/
  sanitizes : Bool

/-- A fault that the program does not explain itself. -/
inductive Uncaught where
  | file (f : FileFault)
  | pattern (e : Corpus.Glob.Error)
  /-- The console cannot show a text, and says why. -/
  | markup (message : Text)

def Uncaught.message : Uncaught → Text
  | .file f => f.message
  | .pattern e => e.message
  | .markup message => message

/-- How a run ended. -/
structure Ending where
  status : Nat
  printed : List Printed
  uncaught : Option Uncaught

namespace Ending

/-- Ends with a status after showing something. -/
def exit (status : Nat) (printed : List Printed) : Ending := ⟨status, printed, none⟩

/-- Ends because of a fault. -/
def crash (u : Uncaught) : Ending := ⟨1, [], some u⟩

end Ending

/-- Where paths have to begin that lie below the given place. The text for a
directory ends in a slash, so that no other name begins with it. -/
def absoluteStart (w : World) (start : Text) : Text :=
  let l := (Corpus.PathName.parse start).resolve w.cwd
  if w.tree.isDirectory l && !l.isEmpty then l.toText ++ Text.of "/" else l.toText

/-- Where the paths of a request have to begin, if it says so. -/
def requestedStart (w : World) (request : SearchRequest) : Option Text :=
  (request.pathStart.filter (!·.isEmpty)).map (absoluteStart w)

/-- The settings of a run. -/
def runSettings (w : World) (request : SearchRequest) : Except Config.Error Settings :=
  match w.environment.validate, w.environment.settings with
  | .error e, _ => .error e
  | .ok _, .error e => .error e
  | .ok _, .ok s => .ok (if request.skipMalformed then { s with policy := .skip } else s)

/-- The files of a run. -/
def runSources (w : World) (request : SearchRequest) : Except Corpus.Error (List SourceFile) :=
  let paths := if request.paths.isEmpty then [Text.of "."] else request.paths
  match Corpus.discover w.tree w.cwd w.environment.extensions w.environment.excludedDirs paths with
  | .ok files => .ok (Corpus.load w.tree w.cwd (files.map Corpus.Location.toText))
  | .error e => .error e

/-- A search of the given kind. -/
def runSearch (w : World) (kind : Kind) (request : SearchRequest) : Ending :=
  match runSettings w request with
  | .error e => .exit 1 [reportError "Configuration error:" (escape e.message)]
  | .ok settings =>
    match runSources w request with
    | .error (.notFound path) =>
      .exit 1 [reportError "Error:" (escape (Corpus.Error.notFound path).message)]
    | .error (.pattern e) => .crash (.pattern e)
    | .ok sources =>
      let run := search settings (.intern request.symbol) kind (requestedStart w request) sources
      match run.fault with
      | none => .exit 0 (report w.cwd sources request.context kind request.symbol run.tally)
      | some ⟨path, .malformed offset reason⟩ => .exit 1 (reportAborted w.cwd path offset reason)
      | some f => .crash (.file f)

/-- The names of the kinds, as a message lists them. -/
def kindNames : Text := Text.join (Text.of ", ") (Kind.all.map Kind.name)

/-- A search of the kind that a name stands for, in whatever case. -/
def runNamed (w : World) (name : Text) (request : SearchRequest) : Ending :=
  match Kind.ofName name.lower with
  | .ok kind => runSearch w kind request
  | .error _ =>
    .exit 1 [reportError "Error:" (Text.of "Invalid kind '" ++ escape name.lower
      ++ Text.of "'. Use one of: " ++ kindNames ++ Text.of ".")]

/-- A search whose kind may have to be found out first. -/
def runRequest (w : World) (request : SearchRequest) : Ending :=
  match request.choice with
  | .fixed kind => runSearch w kind request
  | .named name => runNamed w name request
  | .asked =>
    match w.reply with
    | some name => runNamed w name request
    | none => .exit 1 []

/-- What goes to a console that uses stand-ins for glyphs: messages change, tables
and panels do not. -/
def Printed.sanitize : Printed → Printed
  | .line text => .line (Terminal.replaceIcons text)
  | other => other

/-- What a request leads to, its output still marked up. -/
def respond (w : World) (request : Request) : Ending :=
  let ending : Ending :=
    match request with
    | .help => .exit 0 []
    | .version => .exit 0 [.line (Text.of "lispref " ++ Config.version)]
    | .search request => runRequest w request
  if w.sanitizes then { ending with printed := ending.printed.map Printed.sanitize } else ending

/-- Things as they are shown, up to the first one that cannot be shown. -/
def displayAll : List Printed → List Printed × Option Text
  | [] => ([], none)
  | item :: rest =>
    match item.display with
    | .ok shown =>
      let more := displayAll rest
      (shown :: more.1, more.2)
    | .error e => ([], some e)

/-- An ending as it is shown. A fault of the markup takes the place of the ending. -/
def Ending.display (ending : Ending) : Ending :=
  match displayAll ending.printed with
  | (shown, none) => { ending with printed := shown }
  | (shown, some e) => ⟨1, shown, some (.markup e)⟩

/-- Runs a request. -/
def run (w : World) (request : Request) : Ending := (respond w request).display

end LispXref.Command
