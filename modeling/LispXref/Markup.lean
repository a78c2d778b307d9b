-- Marked-up text, as messages are handed to a console. A tag in square brackets starts or
-- ends a style. Backslashes before a tag can make it plain text: an odd number of them
-- does. A message puts texts into styles, and a text is harmless there if none of its tags
-- ends a style.
import LispXref.Text.Basic

namespace LispXref.Markup

/-! ## Tags -/

def isBackslash (c : CodePoint) : Bool := c = '\\'

/-- The brackets of tags. -/
def isBracket (c : CodePoint) : Bool := c = '[' || c = ']'

/-- A tag begins with a small ASCII letter or one of three marks. -/
def startsTag (c : CodePoint) : Bool := c.between 'a' 'z' || c = '#' || c = '/' || c = '@'

/-- The inside of the tag that a text begins with, and what follows the tag. No
bracket stands inside a tag. -/
def tagAt? (t : Text) : Option (Text × Text) :=
  match t with
  | [] => none
  | c :: rest =>
    let inside := rest.takeWhile fun d => !isBracket d
    match rest.drop inside.length with
    | [] => none
    | d :: after => if c = '[' ∧ d = ']' ∧ inside.head?.any startsTag then some (inside, after) else none

/-- A tag as it is written. -/
def bracketed (inside : Text) : Text := CodePoint.ofChar '[' :: inside ++ [CodePoint.ofChar ']']

def backslashes (n : Nat) : Text := List.replicate n (CodePoint.ofChar '\\')

/-- A text in a style. -/
def styled (style : String) (t : Text) : Text :=
  bracketed (Text.of style) ++ t ++ bracketed (Text.of "/" ++ Text.of style)

/-! ## Harmless texts -/

/-- Whether a text begins with a tag that ends a style. -/
def endsStyle (t : Text) : Bool :=
  match tagAt? t with
  | some (inside, _) => inside.head? = some (CodePoint.ofChar '/')
  | none => false

/-- No tag of the text ends a style. `odd` says whether an odd number of backslashes stands
before the text. -/
def harmless (odd : Bool) : Text → Bool
  | [] => true
  | c :: rest => (odd || !endsStyle (c :: rest)) && harmless (isBackslash c && !odd) rest

/-! ## Messages -/

/-- The styles of messages. -/
def styleNames : List String := ["yellow", "dim", "bold red", "bold yellow", "bold green"]

/-- What stands before a style in a message. -/
def gaps : List Text := [[], Text.of " ", Text.of "\n"]

/-- Marked-up text whose styles hold harmless texts. -/
inductive Message : Text → Prop
  | harmless {t : Text} (h : harmless false t = true) : Message t
  | styled (gap : Text) (style : String) {t v : Text} (hgap : gap ∈ gaps) (hstyle : style ∈ styleNames)
      (ht : Markup.harmless false t = true) (hv : Message v) : Message (gap ++ styled style t ++ v)

end LispXref.Markup
