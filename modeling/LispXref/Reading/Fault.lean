-- Why a text cannot be read. Nearly every fault is a refusal of the text at an
-- offset. A decimal number that is no numeral, a character name that names more
-- than one character, and one that cannot be looked up because it has a surrogate,
-- are faults of their own kind, without an offset in the text. Running out of stack
-- on deeply nested text is not modelled.
import LispXref.Numeral
import LispXref.Text.Quoted

namespace LispXref.Reading

/-- Why a text is refused. -/
inductive Reason where
  /-- A closing delimiter where a form should start, or the wrong one. -/
  | unexpectedCloser (c : CodePoint)
  /-- A square bracket closes what a parenthesis opened. -/
  | squareInList
  /-- A lone dot where none may stand. -/
  | invalidDot
  /-- A list ends right after its dot. -/
  | nothingAfterDot
  /-- A list goes on after the form behind its dot. -/
  | manyAfterDot
  /-- The mark `#@` without a count. -/
  | invalidSkip
  /-- A character literal runs into what follows. -/
  | invalidCharacter
  /-- Fewer hexadecimal digits than the escape needs. -/
  | invalidUnicodeEscape
  /-- The escape `\x` without a digit. -/
  | invalidEscape
  /-- A character named by a number that is none. -/
  | invalidCharacterName (name : Text)
  /-- A character name that nothing has. -/
  | unknownCharacterName (name : Text)
  /-- The bracket `#(` without a string. -/
  | invalidStringProperties
  /-- A radix that is not between 2 and 36. -/
  | invalidRadix (radix : Nat)
  /-- Labels of shared structure are not read. -/
  | labelledStructure
  /-- Nothing is read by this character after `#`. -/
  | invalidDispatch (c : CodePoint)
  /-- No integer of the radix. -/
  | invalidInteger (radix : Nat) (numeral : Text)
  /-- The mark `#&` without a length or a string. -/
  | invalidBoolVector
  deriving DecidableEq

/-- The wording of a refusal. -/
def Reason.message : Reason → Text
  | .unexpectedCloser c => Text.of "unexpected '" ++ [c] ++ Text.of "'"
  | .squareInList => Text.of "unexpected ']' in list"
  | .invalidDot => Text.of "invalid dot"
  | .nothingAfterDot => Text.of "nothing after dot"
  | .manyAfterDot => Text.of "more than one object after dot"
  | .invalidSkip => Text.of "invalid #@ syntax"
  | .invalidCharacter => Text.of "invalid character syntax"
  | .invalidUnicodeEscape => Text.of "invalid unicode escape"
  | .invalidEscape => Text.of "invalid escape sequence"
  | .invalidCharacterName name => Text.of "invalid character name " ++ Text.quote name
  | .unknownCharacterName name => Text.of "unknown character name " ++ Text.quote name
  | .invalidStringProperties => Text.of "invalid string property syntax"
  | .invalidRadix radix => Text.of "invalid radix " ++ Text.ofNat radix
  | .labelledStructure => Text.of "unsupported #N=/#N# read syntax"
  | .invalidDispatch c => Text.of "invalid read syntax '#" ++ [c] ++ Text.of "'"
  | .invalidInteger radix numeral =>
    Text.of "invalid base-" ++ Text.ofNat radix ++ Text.of " integer " ++ Text.quote numeral
  | .invalidBoolVector => Text.of "invalid bool-vector syntax"

/-- Why reading failed. -/
inductive Fault where
  /-- The text is refused at an offset. -/
  | malformed (offset : Nat) (reason : Reason)
  /-- A decimal number could not be read. -/
  | numeral (digits : Text) (error : Numeral.Error)
  /-- A name names a sequence of characters instead of one. -/
  | namedSequence (length : Nat)
  /-- A name has surrogates, the first of them at an offset in the name. -/
  | unencodableName (offset : Nat) (surrogates : Text)
  deriving DecidableEq

/-- Which characters of a name cannot be encoded: one, or several side by side. -/
def unencodable (offset : Nat) (surrogates : Text) : Text :=
  match surrogates with
  | [c] =>
    Text.of "character '\\u" ++ Text.hexPadded 4 c.val ++ Text.of "' in position " ++ Text.ofNat offset
  | _ =>
    Text.of "characters in position " ++ Text.ofNat offset ++ Text.of "-"
      ++ Text.ofNat (offset + surrogates.length - 1)

/-- The wording of a fault in the file at a path. -/
def Fault.message (path : Text) : Fault → Text
  | .malformed offset reason =>
    Text.of "malformed input in " ++ path ++ Text.of " at offset " ++ Text.ofNat offset
      ++ Text.of ": " ++ reason.message
  | .numeral digits error => error.message digits
  | .namedSequence length =>
    Text.of "ord() expected a character, but string of length " ++ Text.ofNat length
      ++ Text.of " found"
  | .unencodableName offset surrogates =>
    Text.of "'utf-8' codec can't encode " ++ unencodable offset surrogates
      ++ Text.of ": surrogates not allowed"

/-- Results can be compared. -/
instance decidableEqExcept {ε α : Type} [DecidableEq ε] [DecidableEq α] : DecidableEq (Except ε α)
  | .ok a, .ok b => decidable_of_iff (a = b) ⟨congrArg _, Except.ok.inj⟩
  | .error a, .error b => decidable_of_iff (a = b) ⟨congrArg _, Except.error.inj⟩
  | .ok _, .error _ => .isFalse nofun
  | .error _, .ok _ => .isFalse nofun

end LispXref.Reading

namespace LispXref

/-- A fault in the file at a path. -/
structure FileFault where
  path : Text
  fault : Reading.Fault
  deriving DecidableEq

/-- The wording of a fault in a file. -/
def FileFault.message (f : FileFault) : Text := f.fault.message f.path

end LispXref
