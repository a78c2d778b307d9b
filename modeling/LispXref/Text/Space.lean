-- White space in the sense of Unicode, used for settings, names and numbers.
-- The blanks of Lisp source are a different, smaller class.
import LispXref.Text.Digit

namespace LispXref

/-- The ranges of Unicode white space, the ASCII separators U+001C to U+001F
included. -/
def spaceRanges : List (Nat × Nat) :=
  [(0x9, 0xD), (0x1C, 0x20), (0x85, 0x85), (0xA0, 0xA0), (0x1680, 0x1680), (0x2000, 0x200A),
   (0x2028, 0x2029), (0x202F, 0x202F), (0x205F, 0x205F), (0x3000, 0x3000)]

/-- Whether the code point is white space. -/
def CodePoint.isSpace (c : CodePoint) : Bool := inRanges spaceRanges c.val

namespace Text

/-- Drops what satisfies `p` at both ends. -/
def trimBy (p : CodePoint → Bool) (t : Text) : Text :=
  (((t.dropWhile p).reverse).dropWhile p).reverse

/-- Drops white space at both ends. -/
def trim (t : Text) : Text := trimBy CodePoint.isSpace t

/-- The maximal runs without white space. -/
def words : Text → List Text
  | [] => []
  | c :: rest =>
    if c.isSpace then words rest
    else match rest with
      | [] => [[c]]
      | d :: _ =>
        if d.isSpace then [c] :: words rest
        else match words rest with
          | [] => [[c]]
          | word :: more => (c :: word) :: more

end Text

end LispXref
