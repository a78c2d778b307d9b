-- What a search run shows: tables or panels of matches, warnings about files that
-- were passed over, and a summary. Everything but source code is marked-up text, in
-- which what comes from the user or from files is escaped.
import LispXref.Console
import LispXref.Corpus.Path
import LispXref.Lines
import LispXref.Search

namespace LispXref.Command

open Reading
open Console (escape render)
open Markup (styled)

variable [Console]

/-- One thing that is printed. -/
inductive Printed where
  /-- A message. -/
  | line (text : Text)
  /-- The matches of a file: line, column and snippet of each. -/
  | table (title : Text) (rows : List (Int × Int × Text))
  /-- A match with the lines around it, the first of which has a number. -/
  | panel (title code : Text) (startLine highlight : Int)
  deriving DecidableEq

/-- A row as it is shown. -/
def displayRow (row : Int × Int × Text) : Except Text (Int × Int × Text) :=
  (render row.2.2).map fun text => (row.1, row.2.1, text)

/-- A thing as it is shown. The code in a panel is not marked up. -/
def Printed.display : Printed → Except Text Printed
  | .line text => (render text).map .line
  | .table title rows => do return .table (← render title) (← rows.mapM displayRow)
  | .panel title code startLine highlight =>
    (render title).map fun title => .panel title code startLine highlight

/-- The headings of a table. -/
def columns : List Text := [Text.of "Line", Text.of "Col", Text.of "Match"]

/-- A row of a table. -/
def matchRow (ix : LineIndex) (m : Match) : Int × Int × Text :=
  let (line, column) := ix.position m.span.start
  (line, column, escape (snippet ix.text m.span.start m.span.stop snippetWidth))

/-- The panel of a match. -/
def matchPanel (ix : LineIndex) (path : Text) (context : Nat) (m : Match) : Printed :=
  let (line, column) := ix.position m.span.start
  let around := (ix.context? m.span.start m.span.stop context).getD []
  let title := path ++ Text.of ":" ++ Text.ofInt line ++ Text.of ":" ++ Text.ofInt column
  .panel (escape title) (Text.join (Text.of "\n") (around.map (·.2))) ((around.head?.map (·.1)).getD line) line

/-- The matches of one file. -/
def reportFile (path text : Text) (context : Nat) (ms : List Match) : List Printed :=
  let ix := LineIndex.ofText text
  if 0 < context then ms.map (matchPanel ix path context) else [.table (escape path) (ms.map (matchRow ix))]

/-- The matches of all files. -/
def reportFound (cwd : Corpus.Location) (sources : List SourceFile) (context : Nat) (found : Found) :
    List Printed :=
  found.flatMap fun entry =>
    match sources.find? fun s => s.path = entry.1 with
    | some source => reportFile (Corpus.displayPath cwd entry.1) source.text context entry.2
    | none => []

/-- The warning about a file that was passed over. -/
def reportSkipped (cwd : Corpus.Location) (s : Skipped) : Printed :=
  .line (styled "yellow" (Text.of "⚠ Skipped") ++ Text.of " " ++ escape (Corpus.displayPath cwd s.path)
    ++ Text.of " (offset " ++ Text.ofNat s.offset ++ Text.of ": " ++ escape s.reason.message
    ++ Text.of ")")

/-- The line that says why nothing was searched. -/
def reportError (label : String) (message : Text) : Printed :=
  .line (styled "bold red" (Text.of label) ++ Text.of " " ++ message)

/-- A word in the plural unless there is just one. -/
def plural (n : Nat) (word : String) : Text := Text.of word ++ if n = 1 then [] else Text.of "s"

/-- The number of matches. -/
def matchCount (found : Found) : Nat := (found.flatMap fun entry => entry.2).length

/-- The last line of a run, from the numbers of matches, of files that have one and of
files that were loaded. -/
def summary (kind : Kind) (symbol : Text) (count files searched : Nat) : Printed :=
  let size := Text.of " " ++ styled "dim" (Text.of "(searched " ++ Text.ofNat searched ++ Text.of ")")
  if count = 0 then
    .line (styled "bold yellow" (Text.of "No " ++ kind.name ++ Text.of " references to " ++ escape symbol
      ++ Text.of " found") ++ size)
  else
    .line (Text.of "\n" ++ styled "bold green" (Text.of "✓ Found " ++ Text.ofNat count ++ Text.of " "
      ++ kind.name ++ Text.of " " ++ plural count "reference" ++ Text.of " to " ++ escape symbol
      ++ Text.of " in " ++ Text.ofNat files ++ Text.of " " ++ plural files "file") ++ size)

/-- Everything that a run without a fault shows. -/
def report (cwd : Corpus.Location) (sources : List SourceFile) (context : Nat) (kind : Kind)
    (symbol : Text) (tally : Tally) : List Printed :=
  reportFound cwd sources context tally.found ++ tally.skipped.map (reportSkipped cwd)
    ++ [summary kind symbol (matchCount tally.found) tally.found.length sources.length]

/-- What is shown when a malformed file ended the run. -/
def reportAborted (cwd : Corpus.Location) (path : Text) (offset : Nat) (reason : Reason) :
    List Printed :=
  [reportError "search aborted:" (Text.of "malformed input in " ++ escape (Corpus.displayPath cwd path)
      ++ Text.of " at offset " ++ Text.ofNat offset),
   .line (styled "dim" (escape reason.message))]

end LispXref.Command
