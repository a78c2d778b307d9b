-- Text as a list of Unicode code points. Source files, symbol names, paths
-- and messages are all texts. Offsets and lengths count code points, and a
-- surrogate is a code point like any other: a string literal can spell one
-- by its number.

namespace LispXref

/-! ## Code points -/

/-- A Unicode code point, surrogates included. -/
structure CodePoint where
  val : Nat
  isLt : val < 0x110000
  deriving DecidableEq

namespace CodePoint

/-- Every character is a code point. -/
def ofChar (c : Char) : CodePoint :=
  ⟨c.toNat, by rcases c.valid with h | h <;> simp only [Char.toNat] <;> omega⟩

instance : Coe Char CodePoint := ⟨ofChar⟩

instance : Inhabited CodePoint := ⟨ofChar ' '⟩

/-- The code point of a number, if there is one. -/
def ofNat? (n : Nat) : Option CodePoint :=
  if h : n < 0x110000 then some ⟨n, h⟩ else none

/-- U+FFFD, which stands in for a number that is no code point. -/
def replacement : CodePoint := ⟨0xFFFD, by decide⟩

/-- Surrogates are the code points that are no characters. -/
def isSurrogate (c : CodePoint) : Bool :=
  decide (0xD800 ≤ c.val ∧ c.val < 0xE000)

/-- The character, unless the code point is a surrogate. -/
def toChar? (c : CodePoint) : Option Char :=
  if c.isSurrogate then none else some (Char.ofNat c.val)

/-- Whether the code point lies between two characters, both included. -/
def between (c : CodePoint) (lo hi : Char) : Bool :=
  decide (lo.toNat ≤ c.val ∧ c.val ≤ hi.toNat)

/-- The digits `0` to `9`. -/
def isDecimalDigit (c : CodePoint) : Bool := c.between '0' '9'

/-- The value of a digit of a base up to 36; letters of either case count
from ten on. -/
def digitValue? (c : CodePoint) : Option Nat :=
  if c.between '0' '9' then some (c.val - 48)
  else if c.between 'a' 'z' then some (c.val - 87)
  else if c.between 'A' 'Z' then some (c.val - 55)
  else none

/-- Whether the code point is a digit of the given base. -/
def isDigitOf (base : Nat) (c : CodePoint) : Bool :=
  match c.digitValue? with
  | some d => decide (d < base)
  | none => false

/-- The digit of a value below 36, in lower case. -/
def ofDigit (d : Nat) : CodePoint :=
  if d < 10 then Char.ofNat (48 + d) else Char.ofNat (87 + d)

/-- The ASCII lower-case letter of an ASCII upper-case letter, and every
other code point itself. -/
def lowerAscii (c : CodePoint) : CodePoint :=
  if c.between 'A' 'Z' then Char.ofNat (c.val + 32) else c

end CodePoint

/-! ## Texts -/

/-- A text: a list of code points. -/
abbrev Text := List CodePoint

namespace Text

/-- The text of a string. -/
def of (s : String) : Text := s.toList.map CodePoint.ofChar

/-- The string of a text, unless the text has a surrogate. -/
def toString? (t : Text) : Option String :=
  (t.mapM CodePoint.toChar?).map String.ofList

/-- The digits of a number in a base from 2 to 36, most significant first. -/
def ofNatBase (base n : Nat) : Text :=
  if _h : 2 ≤ base ∧ base ≤ n then
    ofNatBase base (n / base) ++ [CodePoint.ofDigit (n % base)]
  else [CodePoint.ofDigit n]
termination_by n
decreasing_by exact Nat.div_lt_self (by omega) (by omega)

/-- The decimal digits of a number. -/
def ofNat (n : Nat) : Text := ofNatBase 10 n

/-- The number that base-`base` digits spell; a code point that is no digit
counts as zero. -/
def digitsValue (base : Nat) (digits : Text) : Nat :=
  digits.foldl (fun n c => n * base + c.digitValue?.getD 0) 0

/-- An integer in decimal, with a sign only when it is negative. -/
def ofInt : Int → Text
  | .ofNat n => ofNat n
  | .negSucc n => '-' :: ofNat (n + 1)

/-- Joins texts with a separator between neighbours. -/
def join (separator : Text) : List Text → Text
  | [] => []
  | [t] => t
  | t :: ts => t ++ separator ++ join separator ts

/-- Splits at every occurrence of a code point; the parts are one more than
the occurrences. -/
def splitAt (separator : CodePoint) : Text → List Text
  | [] => [[]]
  | c :: rest =>
    if c = separator then [] :: splitAt separator rest
    else match splitAt separator rest with
      | [] => [[c]]
      | part :: parts => (c :: part) :: parts

/-- Whether a text begins with another. -/
def startsWith (t head : Text) : Bool := head.isPrefixOf t

/-- Puts a text in place of every occurrence of one code point. -/
def substitute (t : Text) (c : CodePoint) (replacement : Text) : Text :=
  t.flatMap fun d => if d = c then replacement else [d]

/-- Texts are ordered by code point, a beginning before what it begins. -/
def le : Text → Text → Bool
  | [], _ => true
  | _ :: _, [] => false
  | a :: as, b :: bs => decide (a.val < b.val) || (decide (a = b) && le as bs)

end Text

end LispXref
