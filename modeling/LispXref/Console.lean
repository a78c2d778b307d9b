-- The console to which a program prints marked-up text. It is a parameter: what a text looks
-- like in the end, from its styles to its line breaks, is up to the console, and so is what
-- becomes of characters that its terminal cannot encode. Two things are asked of it where it
-- matters: an escaped text is not taken for markup, and a message can be shown.
import LispXref.Markup

namespace LispXref

/-- A console that shows marked-up text. -/
class Console where
  /-- The text, so that it is shown as it stands. -/
  escape : Text → Text
  /-- Marked-up text as it is shown, or why it cannot be. -/
  render : Text → Except Text Text

namespace Console

/-- The second text is the first with backslashes added. -/
inductive Backslashed : Text → Text → Prop
  | nil : Backslashed [] []
  | keep (c : CodePoint) {t e : Text} (h : Backslashed t e) : Backslashed (c :: t) (c :: e)
  | add {t e : Text} (h : Backslashed t e) : Backslashed t (CodePoint.ofChar '\\' :: e)

/-- Escaping adds backslashes, and then no tag of the text ends a style. -/
structure EscapesTags (console : Console) : Prop where
  backslashed : ∀ t, Backslashed t (console.escape t)
  harmless : ∀ t, Markup.harmless false (console.escape t) = true

/-- A text whose styles hold harmless texts is shown: every style is ended that was started, and
the terminal takes all characters. -/
def ShowsMessages (console : Console) : Prop :=
  ∀ t, Markup.Message t → ∃ shown, console.render t = .ok shown

end Console

end LispXref
