-- Tokens: the text of symbols and numbers. A token goes on until a blank or a
-- delimiter; a backslash takes the character after it into the token whatever
-- it is. A token without backslashes that spells a number is that number, and
-- every other token is a symbol.
import LispXref.Form
import LispXref.Reading.Blank

namespace LispXref.Reading

/-- The characters that end a token. -/
def isDelimiter (c : CodePoint) : Bool :=
  c = '\x22' || c = '\x27' || c = ';' || c = '(' || c = ')' || c = '[' || c = ']' || c = '#'
    || c = '\x60' || c = ','

/-- The text of a token, and whether a backslash stood in it. -/
structure Token where
  name : Text
  escaped : Bool

/-- Puts a character in front. -/
def Token.push (c : CodePoint) (t : Token) : Token := ⟨c :: t.name, t.escaped⟩

/-- Puts a character in front that stood behind a backslash. -/
def Token.pushEscaped (c : CodePoint) (t : Token) : Token := ⟨c :: t.name, true⟩

/-- Reads a token, possibly empty. The text runs out when it ends in a
backslash. -/
def readToken (pos : Nat) : Text → Outcome Token
  | [] => .done ⟨[], false⟩ ⟨pos, []⟩
  | c :: rest =>
    if c = '\\' then
      match rest with
      | [] => .truncated pos
      | d :: rest' => (readToken (pos + 2) rest').map (Token.pushEscaped d)
    else if isBlank c || isDelimiter c then .done ⟨[], false⟩ ⟨pos, c :: rest⟩
    else (readToken (pos + 1) rest).map (Token.push c)

theorem readToken_from (pos : Nat) (t : Text) : (readToken pos t).From ⟨pos, t⟩ := by
  fun_induction readToken pos t with
  | case1 => exact .done _ _
  | case2 => exact .truncated _ _
  | case3 pos d rest ih =>
    exact (ih.map _).of_reaches (Cursor.reaches_of_rest [_, d] rfl)
  | case4 => exact .done _ _
  | case5 pos c rest _ _ ih =>
    exact (ih.map _).of_reaches (Cursor.reaches_of_rest [c] rfl)

/-- A token that starts with neither a blank nor a delimiter is not empty. -/
theorem readToken_after (pos : Nat) (c : CodePoint) (rest : Text)
    (hb : isBlank c = false) (hd : isDelimiter c = false) :
    (readToken pos (c :: rest)).After ⟨pos, c :: rest⟩ := by
  rw [readToken.eq_def]
  dsimp only
  split
  · split
    · exact .truncated _ _
    · rename_i d rest'
      exact (((readToken_from _ _).map _).of_reaches
        (Cursor.advances_cons (pos + 1) d rest').reaches).after (Cursor.advances_cons pos c _)
  · simp only [hb, hd, Bool.or_self, Bool.false_eq_true, if_false]
    exact ((readToken_from _ _).map _).after (Cursor.advances_cons pos c rest)

/-! ## Numbers -/

/-- The digits in front of a text. -/
def leadingDigits (t : Text) : Text := t.takeWhile CodePoint.isDecimalDigit

/-- What follows the digits in front of a text. -/
def afterDigits (t : Text) : Text := t.dropWhile CodePoint.isDecimalDigit

/-- A sign or none, digits, and perhaps a dot at the end. -/
def spellsInteger (name : Text) : Bool :=
  let body := (Numeral.splitSign name).2
  !(leadingDigits body).isEmpty && (afterDigits body = [] || afterDigits body = Text.of ".")

/-- The integer of a token that spells one: the dot at its end does not count. -/
def integerValue (name : Text) : Except Numeral.Error Int :=
  let (negative, body) := Numeral.splitSign name
  let digits := leadingDigits body
  if Numeral.digitLimit < digits.length then .error (.tooManyDigits digits.length)
  else
    let n := Text.digitsValue 10 digits
    .ok (if negative then -(n : Int) else n)

/-- What may follow the digits of a floating-point number. -/
inductive Exponent where
  | power (e : Int)
  | infinity
  | nan

/-- A floating-point number as it is spelled. -/
structure FloatLiteral where
  negative : Bool
  whole : Text
  fraction : Text
  exponent : Exponent

/-- An exponent: an `e`, then an integer, `+INF` or `+NaN`. -/
def exponent? : Text → Option Exponent
  | [] => none
  | c :: rest =>
    if c ≠ 'e' then none
    else if rest = Text.of "+INF" then some .infinity
    else if rest = Text.of "+NaN" then some .nan
    else
      let (negative, digits) := Numeral.splitSign rest
      if digits.isEmpty || !digits.all CodePoint.isDecimalDigit then none
      else
        let n := Text.digitsValue 10 digits
        some (.power (if negative then -(n : Int) else n))

/-- A floating-point number: digits with a fraction, an exponent, or both. The
digits before the dot may be missing, those after it may not. -/
def floatLiteral? (name : Text) : Option FloatLiteral :=
  let (negative, body) := Numeral.splitSign name
  let whole := leadingDigits body
  match afterDigits body with
  | [] => none
  | c :: rest =>
    if c = '.' then
      let fraction := leadingDigits rest
      if fraction.isEmpty then none
      else if (afterDigits rest).isEmpty then some ⟨negative, whole, fraction, .power 0⟩
      else (exponent? (afterDigits rest)).map (⟨negative, whole, fraction, ·⟩)
    else if whole.isEmpty then none
    else (exponent? (c :: rest)).map (⟨negative, whole, [], ·⟩)

/-- The number nearest to what is spelled. -/
def FloatLiteral.value (l : FloatLiteral) : Binary64 :=
  match l.exponent with
  | .infinity => .infinity l.negative
  | .nan => .nan
  | .power e =>
    .ofDecimal l.negative (Text.digitsValue 10 (l.whole ++ l.fraction)) (e - l.fraction.length)

/-- The form of a token: a number if it spells one and has no backslash, a
symbol otherwise. -/
def Token.form (t : Token) : Except Numeral.Error Form :=
  if t.escaped then .ok (.symbol (.intern t.name))
  else if spellsInteger t.name then (integerValue t.name).map .int
  else match floatLiteral? t.name with
    | some l => .ok (.float l.value)
    | none => .ok (.symbol (.intern t.name))

end LispXref.Reading
