-- How the program reads command lines and replies. Options may stand anywhere among the
-- arguments of a command, until `--`; options of the program itself stand before the
-- command. What is proved about runs starts from their requests.
import LispXref.Command.Run
import LispXref.Numeral

namespace LispXref.Command

/-! ## Options and arguments -/

/-- An option of a command. -/
inductive OptionSpec where
  /-- Written `--name`, without a value. -/
  | flag (long : Text)
  /-- Written `--name VALUE`, `--name=VALUE`, `-n VALUE` or `-nVALUE`. -/
  | valued (long : Text) (short : CodePoint)

def OptionSpec.long : OptionSpec → Text
  | .flag long => long
  | .valued long _ => long

/-- Whether an option is written with the given letter. -/
def OptionSpec.hasShort (c : CodePoint) : OptionSpec → Bool
  | .flag _ => false
  | .valued _ short => short = c

/-- Why a command line is refused. -/
inductive UsageError where
  | unknownOption (text : Text)
  | missingValue (option : Text)
  | unexpectedValue (option : Text)
  | missingCommand
  | unknownCommand (name : Text)
  | missingSymbol
  | badContext (value : Text)
  deriving DecidableEq

/-- Options by their long names, in the order given, and the other arguments. -/
structure Arguments where
  options : List (Text × Text)
  positional : List Text

namespace Arguments

/-- Puts an option in front. -/
def withOption (name value : Text) (a : Arguments) : Arguments :=
  { a with options := (name, value) :: a.options }

/-- Puts an argument in front. -/
def withPositional (value : Text) (a : Arguments) : Arguments :=
  { a with positional := value :: a.positional }

def has (a : Arguments) (name : Text) : Bool := a.options.any fun o => o.1 = name

/-- The value of an option; the last one given counts. -/
def value? (a : Arguments) (name : Text) : Option Text := a.options.reverse.lookup name

end Arguments

/-- An option as found in one argument: a flag, or an option with its value if the
value is in the same argument. -/
inductive FoundOption where
  | flag (long : Text)
  | valued (long : Text) (value : Option Text)

/-- An argument that is written like an option. A single dash is none. -/
def looksLikeOption (arg : Text) : Bool :=
  arg.head? = some (CodePoint.ofChar '-') && decide (1 < arg.length)

/-- An option written with its letter. What follows the letter is its value. -/
def findShort (specs : List OptionSpec) (arg : Text) : Except UsageError FoundOption :=
  match arg with
  | _ :: c :: rest =>
    match specs.find? (·.hasShort c) with
    | some spec => .ok (.valued spec.long (if rest.isEmpty then none else some rest))
    | none => .error (.unknownOption arg)
  | _ => .error (.unknownOption arg)

/-- The option in an argument. Long names are tried first. -/
def findOption (specs : List OptionSpec) (arg : Text) : Except UsageError FoundOption :=
  let name := arg.takeWhile (· ≠ CodePoint.ofChar '=')
  let attached : Option Text := if name.length < arg.length then some (arg.drop (name.length + 1)) else none
  match specs.find? fun spec => spec.long = name with
  | some (.flag long) =>
    match attached with
    | none => .ok (.flag long)
    | some _ => .error (.unexpectedValue long)
  | some (.valued long _) => .ok (.valued long attached)
  | none => if arg.startsWith (Text.of "--") then .error (.unknownOption name) else findShort specs arg

/-- Sorts arguments into options and others. Unless options may be `interspersed`,
the first other argument ends the options. -/
def parseArguments (specs : List OptionSpec) (interspersed : Bool) :
    List Text → Except UsageError Arguments
  | [] => .ok ⟨[], []⟩
  | arg :: rest =>
    if arg = Text.of "--" then .ok ⟨[], rest⟩
    else if looksLikeOption arg then
      match findOption specs arg with
      | .error e => .error e
      | .ok (.flag long) => (parseArguments specs interspersed rest).map (·.withOption long [])
      | .ok (.valued long (some value)) =>
        (parseArguments specs interspersed rest).map (·.withOption long value)
      | .ok (.valued long none) =>
        match rest with
        | [] => .error (.missingValue long)
        | value :: rest => (parseArguments specs interspersed rest).map (·.withOption long value)
    else if interspersed then (parseArguments specs interspersed rest).map (·.withPositional arg)
    else .ok ⟨[], arg :: rest⟩

/-! ## Requests of command lines -/

def versionOption : Text := Text.of "--version"
def helpOption : Text := Text.of "--help"
def pathStartOption : Text := Text.of "--prefix"
def skipOption : Text := Text.of "--skip-malformed"
def quietOption : Text := Text.of "--no-progress"
def contextOption : Text := Text.of "--context"
def kindOption : Text := Text.of "--kind"

/-- The options of the program. -/
def programOptions : List OptionSpec := [.flag versionOption, .flag helpOption]

/-- The options of every search command. -/
def searchOptions : List OptionSpec :=
  [.valued pathStartOption 'p', .flag skipOption, .flag quietOption, .valued contextOption 'c',
   .flag helpOption]

/-- The number of context lines: an integer that is not negative. -/
def contextOf (a : Arguments) : Except UsageError Nat :=
  match a.value? contextOption with
  | none => .ok 0
  | some value =>
    match Numeral.parse 10 value with
    | .ok (.ofNat n) => .ok n
    | _ => .error (.badContext value)

/-- The request of a search command, from its arguments. -/
def searchRequest (choice : Arguments → KindChoice) (a : Arguments) : Except UsageError Request :=
  if a.has helpOption then .ok .help
  else match a.positional, contextOf a with
    | [], _ => .error .missingSymbol
    | _, .error e => .error e
    | symbol :: paths, .ok context =>
      .ok (.search ⟨choice a, symbol, paths, a.value? pathStartOption, a.has skipOption, context⟩)

/-- The kind that the general command looks for. -/
def generalChoice (a : Arguments) : KindChoice :=
  match a.value? kindOption with
  | some name => .named name
  | none => .asked

/-- What the program's own options ask for; the first one counts. -/
def programRequest? (a : Arguments) : Option Request :=
  a.options.head?.map fun o => if o.1 = versionOption then .version else .help

/-- The request of a command line whose command is unknown. Behind `--` the program's
own options are taken for a command, and are recognised here. -/
def strayRequest (name : Text) (args : List Text) : Except UsageError Request :=
  match parseArguments programOptions false (name :: args) with
  | .error e => .error e
  | .ok a =>
    match programRequest? a with
    | some request => .ok request
    | none => .error (.unknownCommand name)

/-- The request of a command with its arguments. Every kind has a command of its
name, and the general command leaves the kind open. -/
def commandRequest (name : Text) (args : List Text) : Except UsageError Request :=
  if name = Text.of "search" then
    match parseArguments (.valued kindOption 'k' :: searchOptions) true args with
    | .ok a => searchRequest generalChoice a
    | .error e => .error e
  else match Kind.ofName name with
    | .error _ => strayRequest name args
    | .ok kind =>
      match parseArguments searchOptions true args with
      | .ok a => searchRequest (fun _ => .fixed kind) a
      | .error e => .error e

/-- The request of a whole command line. -/
def parseRequest (args : List Text) : Except UsageError Request :=
  match parseArguments programOptions false args with
  | .error e => .error e
  | .ok a =>
    match programRequest? a, a.positional with
    | some request, _ => .ok request
    | none, [] => .error .missingCommand
    | none, name :: args => commandRequest name args

/-! ## Asking for the kind -/

/-- Letters that differ only in case become the same; the long s counts as an s. -/
def foldCase (t : Text) : Text :=
  t.map fun c => if c.val = 0x17F then CodePoint.ofChar 's' else c.lowerAscii

/-- The kind that the lines of a reply choose: the first line that names one, in
whatever case, or an empty line, which means function. -/
def repliedKind? : List Text → Option Kind
  | [] => none
  | line :: rest =>
    if line.isEmpty then some .function
    else match Kind.all.find? fun kind => foldCase line = kind.name with
      | some kind => some kind
      | none => repliedKind? rest

/-- The kind that is taken from what the user types, if it names one. -/
def replyTo (input : Text) : Option Text := (repliedKind? input.readableLines).map Kind.name

/-! ## Command lines -/

/-- Runs a command line. One that is refused is explained to the user, but not on the console. -/
def runLine [CharacterNames] [Console] (w : World) (args : List Text) : Ending :=
  match parseRequest args with
  | .error _ => .exit 2 []
  | .ok request => run w request

end LispXref.Command
