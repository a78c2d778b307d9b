-- The console that the program and the examples use. A tag is not shown. An odd number of
-- backslashes before a tag makes it plain text; of an even number half are shown. Escaping
-- puts such backslashes before everything in a text that would be a tag. Where emoji are
-- given by name, they are shown. What is proved about reports holds on other consoles too.
import LispXref.Console
import LispXref.Emoji

namespace LispXref.TagConsole

open Markup

/-! ## Pieces -/

theorem tagAt?_length {t inside after : Text} (h : tagAt? t = some (inside, after)) :
    after.length < t.length := by
  cases t with
  | nil => cases h
  | cons c rest =>
    unfold tagAt? at h
    dsimp only at h
    split at h
    · cases h
    · rename_i d rest' hd
      have hl := congrArg List.length hd
      simp only [List.length_drop, List.length_cons] at hl ⊢
      split at h
      · simp only [Option.some.injEq, Prod.mk.injEq] at h
        rw [← h.2]
        omega
      · cases h

/-- A piece of marked-up text. -/
inductive Segment where
  | plain (text : Text)
  /-- A tag behind a number of backslashes, the first of which is at an offset. -/
  | tag (offset backslashes : Nat) (inside : Text)

/-- Puts a code point in front. -/
def Segment.push (c : CodePoint) : List Segment → List Segment
  | .plain t :: rest => .plain (c :: t) :: rest
  | segments => .plain [c] :: segments

/-- The pieces of a text that starts at an offset. -/
def segments (offset : Nat) (t : Text) : List Segment :=
  match t with
  | [] => []
  | c :: rest =>
    let slashes := ((c :: rest).takeWhile isBackslash).length
    match _h : tagAt? ((c :: rest).drop slashes) with
    | some (inside, after) =>
      .tag offset slashes inside :: segments (offset + slashes + inside.length + 2) after
    | none => Segment.push c (segments (offset + 1) rest)
termination_by t.length
decreasing_by
  · have := tagAt?_length _h
    simp only [List.length_drop] at this; omega
  · simp

/-! ## Escaping -/

/-- A piece that will be shown as it stands. -/
def Segment.escape : Segment → Text
  | .plain t => t
  | .tag _ n inside => backslashes (2 * n + 1) ++ bracketed inside

/-- The text with its tags escaped. A single backslash at the end is doubled, lest
it escape what follows. -/
def escape (t : Text) : Text :=
  let escaped := (segments 0 t).flatMap Segment.escape
  if (escaped.reverse.takeWhile isBackslash).length = 1 then escaped ++ backslashes 1 else escaped

/-! ## Rendering -/

/-- Why marked-up text cannot be shown. -/
inductive Error where
  /-- A tag ends a style that was not started. -/
  | unmatched (inside : Text) (offset : Nat)
  /-- A tag ends the latest style, but there is none. -/
  | nothingToClose (offset : Nat)
  deriving DecidableEq

def Error.message : Error → Text
  | .unmatched inside offset =>
    Text.of "closing tag '" ++ bracketed inside ++ Text.of "' at position " ++ Text.ofNat offset
      ++ Text.of " doesn't match any open tag"
  | .nothingToClose offset =>
    Text.of "closing tag '[/]' at position " ++ Text.ofNat offset ++ Text.of " has nothing to close"

/-- Drops the backslash from every bracket that has one before it. -/
def unescapeBrackets : Text → Text
  | c :: d :: rest =>
    if c = '\\' ∧ d = '[' then d :: unescapeBrackets rest else c :: unescapeBrackets (d :: rest)
  | t => t

/-- The control codes that a console does not take: bell, backspace, vertical tab,
form feed and carriage return. -/
def isSilent (c : CodePoint) : Bool := c.val ∈ [7, 8, 11, 12, 13]

/-- Plain text as it is shown. -/
def shown (t : Text) : Text := (Emoji.replaceNames (unescapeBrackets t)).filter fun c => !isSilent c

/-- The name of a style, apart from blanks around it and its case. -/
def styleName (t : Text) : Text := t.trim.lower

/-- The styles in force after a tag, the latest first. A tag that begins with a
slash ends the style it names, or the latest if it names none; what follows an
equals sign is no part of the name. -/
def applyTag (inForce : List Text) (offset : Nat) (inside : Text) : Except Error (List Text) :=
  let name := inside.takeWhile fun c => c ≠ CodePoint.ofChar '='
  if name.head? = some (CodePoint.ofChar '/') then
    let style := styleName name.tail
    if style.isEmpty then
      match inForce with
      | [] => .error (.nothingToClose offset)
      | _ :: others => .ok others
    else if inForce.contains style then .ok (inForce.erase style)
    else .error (.unmatched inside offset)
  else .ok (styleName name :: inForce)

/-- The text of the pieces, with the given styles in force. -/
def renderSegments (inForce : List Text) : List Segment → Except Error Text
  | [] => .ok []
  | .plain t :: rest => (renderSegments inForce rest).map (shown t ++ ·)
  | .tag offset n inside :: rest =>
    if n % 2 = 1 then
      (renderSegments inForce rest).map (backslashes (n / 2) ++ shown (bracketed inside) ++ ·)
    else match applyTag inForce (offset + n) inside with
      | .ok inForce' => (renderSegments inForce' rest).map (backslashes (n / 2) ++ ·)
      | .error e => .error e

/-- Marked-up text as it is shown. -/
def render (markup : Text) : Except Error Text := renderSegments [] (segments 0 markup)

/-- A console that takes tags so. -/
scoped instance console : Console where
  escape := escape
  render t := (render t).mapError Error.message

end LispXref.TagConsole
