-- Characters spelled by name or number between the braces of \N{…}. The data base of
-- names is a parameter of reading: its contents, the names of the Unicode standard, are
-- no part of this library.
import LispXref.Reading.Fault

namespace LispXref

/-- A data base of character names. -/
class CharacterNames where
  /-- What a name stands for: a character, or a sequence of several. Nothing if there is no
  such name. -/
  lookup? : Text → Option Text

namespace Reading

/-- A name as it is looked up, with one space between its words. -/
def spacedName (name : Text) : Text := Text.join (Text.of " ") (Text.words name)

/-- The first run of surrogates in a text, and its offset. -/
def surrogateRun? (t : Text) : Option (Nat × Text) :=
  let before := t.takeWhile fun c => !c.isSurrogate
  match t.drop before.length with
  | [] => none
  | rest => some (before.length, rest.takeWhile CodePoint.isSurrogate)

/-- The code of a character spelled by name, or by its number after `U+`. A
refusal is reported at the offset `start`. A name is looked up in UTF-8, which has no
surrogates. -/
def namedCode [CharacterNames] (start : Nat) (name : Text) : Except Fault Int :=
  if (name.take 2).map CodePoint.lowerAscii = Text.of "u+" then
    match Numeral.parse 16 (name.drop 2) with
    | .ok code => .ok code
    | .error _ => .error (.malformed start (.invalidCharacterName name))
  else match surrogateRun? (spacedName name) with
    | some (offset, surrogates) => .error (.unencodableName offset surrogates)
    | none =>
      match CharacterNames.lookup? (spacedName name) with
      | some [c] => .ok c.val
      | some characters => .error (.namedSequence characters.length)
      | none => .error (.malformed start (.unknownCharacterName name))

/-- What a name stands for does not depend on where it stands. Only a refusal says where. -/
theorem namedCode_outcomes [CharacterNames] (name : Text) :
    (∃ code, ∀ start, namedCode start name = .ok code) ∨
    (∃ reason, ∀ start, namedCode start name = .error (.malformed start reason)) ∨
    (∃ length, ∀ start, namedCode start name = .error (.namedSequence length)) ∨
    ∃ offset surrogates, ∀ start, namedCode start name = .error (.unencodableName offset surrogates) := by
  unfold namedCode
  split
  · cases Numeral.parse 16 (name.drop 2) with
    | ok code => exact .inl ⟨code, fun _ => rfl⟩
    | error e => exact .inr (.inl ⟨_, fun _ => rfl⟩)
  · cases surrogateRun? (spacedName name) with
    | some run => exact .inr (.inr (.inr ⟨run.1, run.2, fun _ => rfl⟩))
    | none =>
      cases CharacterNames.lookup? (spacedName name) with
      | none => exact .inr (.inl ⟨_, fun _ => rfl⟩)
      | some characters =>
        match characters with
        | [c] => exact .inl ⟨c.val, fun _ => rfl⟩
        | [] => exact .inr (.inr (.inl ⟨_, fun _ => rfl⟩))
        | _ :: _ :: _ => exact .inr (.inr (.inl ⟨_, fun _ => rfl⟩))

end Reading

end LispXref
