-- Forms written as Lisp source. Items are separated by one space, and a list of
-- two items headed by a shorthand symbol is written with its mark.
import LispXref.Binary64.Shortest
import LispXref.Form
import LispXref.Numeral

namespace LispXref

namespace VectorKind

/-- What stands before the items. -/
def opener : VectorKind → Text
  | .plain => Text.of "["
  | .record => Text.of "#s("
  | .bytecode => Text.of "#["

/-- What stands after the items. -/
def closer : VectorKind → Text
  | .record => Text.of ")"
  | _ => Text.of "]"

end VectorKind

namespace Form

/-- A string literal: backslashes and double quotes are escaped. -/
def printString (value : Text) : Text :=
  let escape (c : CodePoint) : Text := if c = '\\' ∨ c = '\x22' then ['\\', c] else [c]
  Text.of "\"" ++ value.flatMap escape ++ Text.of "\""

/-- A character literal: visible ASCII characters as they are, any other code in
hexadecimal. -/
def printChar (code : Int) : Text :=
  match code with
  | .ofNat n =>
    if 32 < n ∧ n < 127 then ['?', Char.ofNat n] else Text.of "?\\x" ++ Text.ofNatBase 16 n
  | .negSucc n => Text.of "?\\x-" ++ Text.ofNatBase 16 (n + 1)

mutual

/-- The form as Lisp source. -/
def print : Form → Text
  | .symbol s => s.toText
  | .string value => printString value
  | .char code => printChar code
  | .int value => Text.ofInt value
  | .float value => value.toText
  | .boolVector length data => Text.of "#&" ++ Text.ofNat length ++ Text.of "\"" ++ data ++ Text.of "\""
  | .vector kind items => kind.opener ++ printItems items ++ kind.closer
  | .dotted items tail =>
    Text.of "(" ++ printItems items ++ Text.of " . " ++ tail.print ++ Text.of ")"
  | .list items =>
    match Shorthand.ofItems? items with
    | some s => s.mark ++ printTail items
    | none => Text.of "(" ++ printItems items ++ Text.of ")"

/-- The items with a space between neighbours. -/
def printItems : List Form → Text
  | [] => []
  | [f] => f.print
  | f :: fs => f.print ++ Text.of " " ++ printItems fs

/-- The items after the first. -/
def printTail : List Form → Text
  | [] => []
  | _ :: fs => printItems fs

end

mutual

/-- Whether every integer in the form has at most as many decimal digits as are
written. -/
def fitsDigitLimit : Form → Bool
  | .int value => decide (value.natAbs < Nat.pow 10 Numeral.digitLimit)
  | .boolVector length _ => decide (length < Nat.pow 10 Numeral.digitLimit)
  | .list items => allFitDigitLimit items
  | .vector _ items => allFitDigitLimit items
  | .dotted items tail => allFitDigitLimit items && tail.fitsDigitLimit
  | _ => true

/-- Whether every integer in the forms is short enough. -/
def allFitDigitLimit : List Form → Bool
  | [] => true
  | f :: fs => f.fitsDigitLimit && allFitDigitLimit fs

end

/-- The one reason why a form is not written. -/
inductive PrintError where
  /-- An integer has too many digits. -/
  | tooManyDigits
  deriving DecidableEq

/-- What is said of an integer that is not written. -/
def PrintError.message : PrintError → Text
  | .tooManyDigits =>
    Text.of "Exceeds the limit (4300 digits) for integer string conversion; "
      ++ Text.of "use sys.set_int_max_str_digits() to increase the limit"

/-- The form as Lisp source, unless an integer in it is too long. -/
def toSource (f : Form) : Except PrintError Text :=
  if f.fitsDigitLimit then .ok f.print else .error .tooManyDigits

end Form

end LispXref
