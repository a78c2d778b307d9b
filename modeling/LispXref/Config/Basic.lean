-- Settings from environment variables. They are looked up whenever they are asked
-- for, so a configuration shows later changes of the environment.
import LispXref.Config.Environment
import LispXref.Search
import LispXref.Text.Lower

namespace LispXref.Config

/-! ## Defaults -/

/-- The version of the program. -/
def version : Text := Text.of "1.0.0"

/-- The file endings that are searched by default. -/
def defaultExtensions : List Text := [Text.of ".el"]

/-- The directories that are never searched, in order. -/
def builtinExcluded : List Text :=
  [".cask", ".eldev", ".git", ".hg", ".svn", "__pycache__", "eln-cache", "elpa-archives",
   "node_modules"].map Text.of

/-- The names of the variables. -/
def progressVariable : Text := Text.of "LISPREF_PROGRESS_EVERY"
def policyVariable : Text := Text.of "LISPREF_ON_READ_ERROR"
def extensionsVariable : Text := Text.of "LISPREF_EXTENSIONS"
def excludedVariable : Text := Text.of "LISPREF_EXCLUDED_DIRS"

/-! ## Faulty values -/

/-- Why a configuration is refused. -/
inductive Error where
  | progressNotInteger (value : Text)
  | progressTooSmall (n : Int)
  | unknownPolicy (name : Text)
  /-- The settings of a search are refused. -/
  | settings (e : SettingsError)
  deriving DecidableEq

def Error.message : Error → Text
  | .progressNotInteger value => progressVariable ++ Text.of " must be an integer, got " ++ Text.quote value
  | .progressTooSmall n => progressVariable ++ Text.of " must be at least 1, got " ++ Text.ofInt n
  | .unknownPolicy name =>
    policyVariable ++ Text.of " must be one of " ++ Policy.choices ++ Text.of ", got " ++ Text.quote name
  | .settings e => e.message

/-! ## Values -/

namespace Environment

/-- How many files lie between two reports of progress. -/
def progressEvery (env : Environment) : Except Error Int :=
  let value := (env.get? progressVariable).getD (Text.of "10")
  match Numeral.parse 10 value with
  | .error _ => .error (.progressNotInteger value)
  | .ok n => if n < 1 then .error (.progressTooSmall n) else .ok n

/-- The name of the policy for malformed files, in lower case and without white
space around it. -/
def policyName (env : Environment) : Text :=
  ((env.get? policyVariable).getD (Text.of "abort")).trim.lower

/-- The entries of a list with commas between them, without white space around
them and without empty ones. -/
def entries (value : Text) : List Text :=
  ((Text.splitAt ',' value).map Text.trim).filter (!·.isEmpty)

/-- A file ending starts with a dot. -/
def withDot (t : Text) : Text := if t.startsWith (Text.of ".") then t else Text.of "." ++ t

/-- The file endings to search; never none. -/
def extensions (env : Environment) : List Text :=
  let given := (entries ((env.get? extensionsVariable).getD [])).map withDot
  if given.isEmpty then defaultExtensions else given

/-- Inserts a text into a sorted list, unless it is there. -/
def insertSorted (t : Text) : List Text → List Text
  | [] => [t]
  | u :: rest =>
    if t = u then u :: rest
    else if Text.le t u then t :: u :: rest
    else u :: insertSorted t rest

/-- The names of the directories that are not searched, in order: the built-in ones
and those of the variable. -/
def excludedDirs (env : Environment) : List Text :=
  (entries ((env.get? excludedVariable).getD [])).foldl (fun names t => insertSorted t names)
    builtinExcluded

/-- The settings of a search under the configuration. -/
def settings (env : Environment) : Except Error Settings :=
  match env.progressEvery with
  | .error e => .error e
  | .ok n =>
    match Settings.make n env.policyName with
    | .ok s => .ok s
    | .error e => .error (.settings e)

/-- Accepts a configuration whose report interval and policy are valid. -/
def validate (env : Environment) : Except Error Unit :=
  match env.progressEvery with
  | .error e => .error e
  | .ok _ =>
    match Policy.ofName? env.policyName with
    | some _ => .ok ()
    | none => .error (.unknownPolicy env.policyName)

end Environment

/-! ## A shared configuration -/

/-- The environment, and the shared configuration if it has been built. A
configuration has no values of its own, so it is known by a number only. -/
structure State where
  environment : Environment
  shared : Option Nat
  /-- The number of the next configuration. -/
  next : Nat

namespace State

/-- No variable is set and nothing has been built. -/
def initial : State := ⟨.empty, none, 0⟩

def set (s : State) (name value : Text) : State :=
  { s with environment := s.environment.insert name value }

def unset (s : State) (name : Text) : State :=
  { s with environment := s.environment.erase name }

/-- Forgets the shared configuration. -/
def reset (s : State) : State := { s with shared := none }

variable [Loader]

/-- The environment after a file was loaded, if there is one. -/
def loaded (s : State) (file : Option Text) : Environment :=
  match file with
  | some f => Loader.load s.environment f
  | none => s.environment

/-- Builds a configuration from a file, if there is one. The variables that the file
sets stay set even if the configuration is refused. -/
def build (s : State) (file : Option Text) : Except Error Nat × State :=
  match (s.loaded file).validate with
  | .ok _ => (.ok s.next, { s with environment := s.loaded file, next := s.next + 1 })
  | .error e => (.error e, { s with environment := s.loaded file })

/-- The shared configuration, built on first use from a file, if there is one. One that is
refused is not kept. -/
def getFrom (s : State) (file : Option Text) : Except Error Nat × State :=
  match s.shared with
  | some n => (.ok n, s)
  | none =>
    match s.build file with
    | (.ok n, s') => (.ok n, { s' with shared := some n })
    | (.error e, s') => (.error e, s')

/-- The shared configuration, where there is no file of settings. -/
def get (s : State) : Except Error Nat × State := s.getFrom none

end State

end LispXref.Config
