-- Emoji given by name: a name between two colons stands for its emoji. Behind the
-- name `-text` or `-emoji` may ask for one of the two styles of the emoji. A name
-- that nothing has stays as it is, with both of its colons.
import LispXref.Emoji.Table
import LispXref.Text.Lower
import LispXref.Text.Space

namespace LispXref.Emoji

/-- What ends a name: a colon, perhaps with a style before it. -/
structure Ending where
  written : Text
  /-- The code point that asks for the style. -/
  selector : Text

/-- The endings; the one without a style asks for nothing. -/
def endings : List Ending :=
  [⟨Text.of ":", []⟩, ⟨Text.of "-text:", Text.of "\ufe0e"⟩, ⟨Text.of "-emoji:", Text.of "\ufe0f"⟩]

/-- A name with its ending, and what follows. -/
structure Code where
  name : Text
  ending : Ending
  rest : Text

/-- The code in a text that follows a colon. Its name goes up to the first ending
and has no white space. -/
def codeAt? : Text → Option Code
  | [] => none
  | c :: rest =>
    match endings.find? fun e => Text.startsWith (c :: rest) e.written with
    | some e => some ⟨[], e, (c :: rest).drop e.written.length⟩
    | none =>
      if c.isSpace then none else (codeAt? rest).map fun code => { code with name := c :: code.name }

theorem codeAt?_length {t : Text} {code : Code} (h : codeAt? t = some code) :
    code.rest.length ≤ t.length := by
  induction t generalizing code with
  | nil => cases h
  | cons c rest ih =>
    rw [codeAt?] at h
    split at h
    · cases h
      simp
    · split at h
      · cases h
      · obtain ⟨inner, hi, rfl⟩ := Option.map_eq_some_iff.1 h
        have := ih hi
        exact Nat.le_succ_of_le this

/-- The emoji of a name, in whatever case. -/
def ofName? (name : Text) : Option Text :=
  (name.lower.toString?.bind fun s => table.lookup s).map Text.of

/-- What a code stands for. -/
def Code.meaning (code : Code) : Text :=
  match ofName? code.name with
  | some emoji => emoji ++ code.ending.selector
  | none => CodePoint.ofChar ':' :: code.name ++ code.ending.written

/-- The text with emoji in place of their names. -/
def replaceNames (t : Text) : Text :=
  match t with
  | [] => []
  | c :: rest =>
    if c = ':' then
      match _h : codeAt? rest with
      | some code => code.meaning ++ replaceNames code.rest
      | none => c :: replaceNames rest
    else c :: replaceNames rest
termination_by t.length
decreasing_by
  · have := codeAt?_length _h
    simp only [List.length_cons]; omega
  · simp
  · simp

end LispXref.Emoji
