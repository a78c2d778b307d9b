-- Searching files for references to a symbol. A file is read whole; only forms
-- that mention the symbol are walked. Files are searched in order, and what was
-- found is kept under each file's path. A malformed file ends the search or is
-- passed over, as the settings say.
import LispXref.Walk

namespace LispXref

open Reading

variable [CharacterNames]

/-! ## One file -/

/-- A file to search. -/
structure SourceFile where
  path : Text
  text : Text
  deriving DecidableEq

/-- Every token of the symbol in the forms. -/
def tokenMatches (target : Symbol) (forms : List Positioned) : List Match :=
  forms.flatMap fun p => (p.spansOf target).map fun s => ⟨s, .symbol target⟩

/-- The references under each of the forms, one form after the other. -/
def walkAll (text : Text) (target : Symbol) (rule : Rule) : List Positioned → Except Fault (List Match)
  | [] => .ok []
  | p :: ps =>
    match walk text target rule p.form p.span [] with
    | .ok found => (walkAll text target rule ps).map (found ++ ·)
    | .error fault => .error fault

/-- The references of a kind among forms of a text. -/
def matchesIn (text : Text) (target : Symbol) (kind : Kind) (forms : List Positioned) :
    Except Fault (List Match) :=
  match kind.rule with
  | .ok rule => walkAll text target rule forms
  | .error _ => .ok (tokenMatches target forms)

/-- The references of a kind in a text, in the order of the text. -/
def searchText (target : Symbol) (kind : Kind) (text : Text) : Except Fault (List Match) :=
  match readAll text with
  | .ok forms => matchesIn text target kind (forms.filter (·.mentions target))
  | .error fault => .error fault

/-! ## Settings -/

/-- What to do with a malformed file. -/
inductive Policy where
  | abort
  | skip
  deriving DecidableEq

namespace Policy

def all : List Policy := [.abort, .skip]

def name : Policy → Text
  | .abort => Text.of "abort"
  | .skip => Text.of "skip"

def ofName? (name : Text) : Option Policy := all.find? fun p => p.name = name

/-- The names a user can choose from. -/
def choices : Text := Text.join (Text.of ", ") (all.map name)

end Policy

/-- How a search runs: how often it reports, and what it does with a malformed
file. -/
structure Settings where
  progressEvery : Nat
  policy : Policy
  progressEvery_pos : 0 < progressEvery

/-- Why settings are refused. -/
inductive SettingsError where
  | progressTooSmall (n : Int)
  | unknownPolicy (name : Text)
  deriving DecidableEq

def SettingsError.message : SettingsError → Text
  | .progressTooSmall n => Text.of "progress_every must be at least 1, got " ++ Text.ofInt n
  | .unknownPolicy name =>
    Text.of "on_read_error must be one of " ++ Policy.choices ++ Text.of ", got " ++ Text.quote name

/-- Settings from a number and a name; the number is looked at first. -/
def Settings.make (progressEvery : Int) (policy : Text) : Except SettingsError Settings :=
  if h : progressEvery < 1 then .error (.progressTooSmall progressEvery)
  else match Policy.ofName? policy with
    | some p => .ok ⟨progressEvery.toNat, p, by omega⟩
    | none => .error (.unknownPolicy policy)

/-! ## Many files -/

/-- What was found, by path, in the order in which paths first had a match. -/
abbrev Found := List (Text × List Match)

/-- Keeps matches under a path; those of an earlier file of that path give way, but
the path keeps its place. -/
def Found.put (path : Text) (ms : List Match) : Found → Found
  | [] => [(path, ms)]
  | entry :: rest =>
    if entry.1 = path then (path, ms) :: rest else entry :: Found.put path ms rest

/-- A file that was passed over. -/
structure Skipped where
  path : Text
  offset : Nat
  reason : Reason

/-- The wording of why a file was passed over. -/
def Skipped.message (s : Skipped) : Text := (Fault.malformed s.offset s.reason).message s.path

/-- What a search has gathered. -/
structure Tally where
  found : Found
  skipped : List Skipped
  /-- The reports so far: how many files of how many were done. -/
  progress : List (Nat × Nat)

namespace Tally

def empty : Tally := ⟨[], [], []⟩

/-- Keeps the matches of a file, if there are any. -/
def record (t : Tally) (path : Text) (ms : List Match) : Tally :=
  if ms.isEmpty then t else { t with found := t.found.put path ms }

def skip (t : Tally) (s : Skipped) : Tally := { t with skipped := t.skipped ++ [s] }

def report (t : Tally) (done total : Nat) : Tally :=
  { t with progress := t.progress ++ [(done, total)] }

end Tally

/-- How a search ended: what it gathered, and the fault that ended it early. -/
structure Run where
  tally : Tally
  fault : Option FileFault

/-- What a search gives back: what it found, unless a fault ended it. -/
def Run.result (run : Run) : Except FileFault Found :=
  match run.fault with
  | none => .ok run.tally.found
  | some f => .error f

/-- What became of one file: its matches, a refusal that is passed over, or a fault
that ends the search. -/
inductive FileResult where
  | matched (ms : List Match)
  | skipped (s : Skipped)
  | aborted (f : FileFault)

/-- Searches one file under a policy. Only a malformed text can be passed over. -/
def searchFile (policy : Policy) (target : Symbol) (kind : Kind) (source : SourceFile) : FileResult :=
  match searchText target kind source.text with
  | .ok ms => .matched ms
  | .error (.malformed offset reason) =>
    match policy with
    | .abort => .aborted ⟨source.path, .malformed offset reason⟩
    | .skip => .skipped ⟨source.path, offset, reason⟩
  | .error fault => .aborted ⟨source.path, fault⟩

/-- Searches the files from number `done + 1` of `total` on. A report follows every
file whose number is a multiple of the setting, and the last report follows all
files. -/
def searchFrom (settings : Settings) (target : Symbol) (kind : Kind) (total : Nat) :
    Nat → List SourceFile → Tally → Run
  | _, [], tally => ⟨tally.report total total, none⟩
  | done, source :: rest, tally =>
    let report (t : Tally) : Tally :=
      if (done + 1) % settings.progressEvery = 0 ∧ done + 1 ≠ total then t.report (done + 1) total
      else t
    match searchFile settings.policy target kind source with
    | .matched ms =>
      searchFrom settings target kind total (done + 1) rest (report (tally.record source.path ms))
    | .skipped s => searchFrom settings target kind total (done + 1) rest (report (tally.skip s))
    | .aborted f => ⟨tally, some f⟩

/-- The files whose path begins as asked; without a request, or with an empty one,
all files. -/
def selectFiles (pathStart : Option Text) (files : List SourceFile) : List SourceFile :=
  match pathStart with
  | none => files
  | some start => files.filter fun f => f.path.startsWith start

/-- Searches the selected files in order. -/
def search (settings : Settings) (target : Symbol) (kind : Kind) (pathStart : Option Text)
    (files : List SourceFile) : Run :=
  let selected := selectFiles pathStart files
  searchFrom settings target kind selected.length 0 selected .empty

/-! ## Finders -/

/-- Runs searches under its settings, and knows which files the last of them passed over. -/
structure Finder where
  settings : Settings
  skipped : List Skipped

/-- A finder that has run no search. -/
def Finder.new (settings : Settings) : Finder := ⟨settings, []⟩

/-- Runs a search. The files that an earlier search passed over are forgotten. -/
def Finder.search (finder : Finder) (target : Symbol) (kind : Kind) (pathStart : Option Text)
    (files : List SourceFile) : Run × Finder :=
  let run := LispXref.search finder.settings target kind pathStart files
  (run, { finder with skipped := run.tally.skipped })

end LispXref
