-- Integers spelled in a base. A numeral may stand between white space, may
-- have a sign, may group its digits by single underscores, and in bases 16, 8
-- and 2 may start with the mark of its base. The digits 0 to 9 may come from
-- any script. Numerals of bases that are no power of two have at most 4300
-- digits.
import LispXref.Text.Quoted
import LispXref.Text.Space

namespace LispXref.Numeral

/-- Why a text is no numeral. -/
inductive Error where
  /-- The text does not have the form of a numeral. -/
  | malformed
  /-- The numeral has more digits than are read. -/
  | tooManyDigits (count : Nat)
  deriving DecidableEq

/-- The most digits that are read or written in a base that is no power of two. -/
def digitLimit : Nat := 4300

/-- What the digit limit says of a numeral with `count` digits. -/
def tooManyDigitsMessage (count : Nat) : Text :=
  Text.of "Exceeds the limit (4300 digits) for integer string conversion: value has "
    ++ Text.ofNat count
    ++ Text.of " digits; use sys.set_int_max_str_digits() to increase the limit"

/-- The message for a text that is no decimal numeral; the text is quoted, cut
after 200 characters. -/
def Error.message (text : Text) : Error → Text
  | .malformed =>
    Text.of "invalid literal for int() with base 10: " ++ (Text.quote text).take 200
  | .tooManyDigits count => tooManyDigitsMessage count

/-- The ASCII spaces that may stand around a numeral. -/
def isMargin (c : CodePoint) : Bool := c = ' ' || c.between '\t' '\r'

/-- Digits and spaces of every script as their ASCII counterparts. Any other
code point beyond ASCII becomes a question mark, which no numeral contains. -/
def toAscii (c : CodePoint) : CodePoint :=
  if c.val < 127 then c
  else if c.isSpace then ' '
  else match c.decimalValue? with
    | some d => CodePoint.ofDigit d
    | none => '?'

/-- The sign in front, and what follows it. -/
def splitSign : Text → Bool × Text
  | c :: rest => if c = '-' then (true, rest) else if c = '+' then (false, rest) else (false, c :: rest)
  | [] => (false, [])

/-- The letter after a zero that marks a base. -/
def marksBase (base : Nat) (c : CodePoint) : Bool :=
  (base = 16 && c.lowerAscii = 'x') || (base = 8 && c.lowerAscii = 'o')
    || (base = 2 && c.lowerAscii = 'b')

/-- The mark that groups digits. -/
def isUnderscore (c : CodePoint) : Bool := c = '_'

/-- Drops one underscore in front. -/
def dropUnderscore : Text → Text
  | c :: rest => if isUnderscore c then rest else c :: rest
  | [] => []

/-- Drops the mark of the base, with one underscore after it. -/
def dropMark (base : Nat) : Text → Text
  | z :: m :: rest => if z = '0' && marksBase base m then dropUnderscore rest else z :: m :: rest
  | t => t

/-- No two underscores stand side by side, and none at the end. -/
def underscoresSingle : Text → Bool
  | [] => true
  | [c] => !isUnderscore c
  | c :: d :: rest => !(isUnderscore c && isUnderscore d) && underscoresSingle (d :: rest)

/-- Bases 2, 4, 8, 16 and 32. -/
def isPowerOfTwo (base : Nat) : Bool := base ∈ [2, 4, 8, 16, 32]

/-- The number that digits and underscores spell, when nothing but margin
follows them. -/
def magnitude (base : Nat) (t : Text) : Except Error Nat :=
  let run := t.takeWhile fun c => c.isDigitOf base || isUnderscore c
  let digits := run.filter fun c => !isUnderscore c
  if run.head?.any isUnderscore || !underscoresSingle run then .error .malformed
  else if !isPowerOfTwo base && decide (digitLimit < digits.length) then
    .error (.tooManyDigits digits.length)
  else if digits.isEmpty || !(t.drop run.length).all isMargin then .error .malformed
  else .ok (Text.digitsValue base digits)

/-- The integer that a text spells in a base from 2 to 36. -/
def parse (base : Nat) (t : Text) : Except Error Int :=
  let (negative, body) := splitSign ((t.map toAscii).dropWhile isMargin)
  match magnitude base (dropMark base body) with
  | .ok n => .ok (if negative then -(n : Int) else n)
  | .error e => .error e

end LispXref.Numeral
