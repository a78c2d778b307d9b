-- Character and string literals. Both share the backslash escapes: control and
-- other modifiers of keys, codes in octal and hexadecimal, names, and letters
-- for common control characters. Inside a string a code loses its modifiers.
import LispXref.Reading.CharacterName
import LispXref.Reading.Token

namespace LispXref.Reading

/-! ## Modifiers -/

/-- The number of codes without modifiers, `2^22`. -/
def plainCodes : Int := 0x400000

/-- Sets the bit of weight `2^k`; it stays set if it is set already. -/
def setBit (k : Nat) (code : Int) : Int :=
  let bit : Int := (1 <<< k : Nat)
  if code / bit % 2 = 1 then code else code + bit

/-- The control key: `?` gives delete, a letter or one of `@[\]^_` gives its
control character, and any other code gets the control bit. -/
def applyControl (code : Int) : Int :=
  let base := code % plainCodes
  let high := code - base
  let upper := if base / 32 % 2 = 1 then base - 32 else base
  if base = 63 then high + 127
  else if 64 ≤ upper ∧ upper ≤ 95 then high + base % 32
  else setBit 26 code

/-- The modifiers that are written as a letter and a dash. -/
inductive Modifier where
  | altKey
  | superKey
  | hyperKey
  | shiftKey
  | controlKey
  | metaKey
  deriving DecidableEq

namespace Modifier

def ofLetter? (c : CodePoint) : Option Modifier :=
  if c = 'A' then some .altKey
  else if c = 's' then some .superKey
  else if c = 'H' then some .hyperKey
  else if c = 'S' then some .shiftKey
  else if c = 'C' then some .controlKey
  else if c = 'M' then some .metaKey
  else none

/-- The code with the modifier. -/
def apply : Modifier → Int → Int
  | .altKey => setBit 22
  | .superKey => setBit 23
  | .hyperKey => setBit 24
  | .shiftKey => setBit 25
  | .controlKey => applyControl
  | .metaKey => setBit 27

end Modifier

/-! ## Escapes -/

/-- The letters that stand for a control character, space or delete; any other
character stands for itself. -/
def simpleEscape (c : CodePoint) : Nat :=
  if c = 'a' then 7
  else if c = 'b' then 8
  else if c = 't' then 9
  else if c = 'n' then 10
  else if c = 'v' then 11
  else if c = 'f' then 12
  else if c = 'r' then 13
  else if c = 'e' then 27
  else if c = 'd' then 127
  else if c = 's' then 32
  else c.val

/-- The digits of a base in front of a text, at most `limit` of them. -/
def codeDigits (base limit : Nat) (t : Text) : Text :=
  (t.takeWhile (CodePoint.isDigitOf base)).take limit

/-- The code that digits in front of the text spell. -/
def readDigits (pos base : Nat) (digits t : Text) : Outcome Int :=
  .done (Text.digitsValue base digits) ⟨pos + digits.length, t.drop digits.length⟩

/-- Any number of hexadecimal digits, but at least one. -/
def readHex (start pos : Nat) (t : Text) : Outcome Int :=
  let digits := codeDigits 16 t.length t
  if digits.isEmpty then
    if t.isEmpty then .truncated pos else .malformed start .invalidEscape pos
  else readDigits pos 16 digits t

/-- Exactly `count` hexadecimal digits. -/
def readExactHex (start pos count : Nat) (t : Text) : Outcome Int :=
  let digits := codeDigits 16 count t
  if digits.length = count then readDigits pos 16 digits t
  else if digits.length = t.length then .truncated (pos + digits.length)
  else .malformed start .invalidUnicodeEscape (pos + digits.length)

theorem codeDigits_length_le (base limit : Nat) (t : Text) :
    (codeDigits base limit t).length ≤ t.length := by
  have := (List.takeWhile_prefix (CodePoint.isDigitOf base) (l := t)).length_le
  simp only [codeDigits, List.length_take]
  omega

theorem readDigits_from (pos base : Nat) {digits t : Text} (h : digits.length ≤ t.length) :
    (readDigits pos base digits t).From ⟨pos, t⟩ :=
  (Outcome.From.done _ _).of_reaches (Cursor.reaches_drop pos _ t h)

theorem readHex_from (start pos : Nat) (t : Text) : (readHex start pos t).From ⟨pos, t⟩ := by
  unfold readHex
  dsimp only
  split
  · split
    · exact .truncated _ _
    · exact .failed _ _ _
  · exact readDigits_from _ _ (codeDigits_length_le _ _ _)

theorem readExactHex_from (start pos count : Nat) (t : Text) :
    (readExactHex start pos count t).From ⟨pos, t⟩ := by
  unfold readExactHex
  dsimp only
  split
  · exact readDigits_from _ _ (codeDigits_length_le _ _ _)
  · split
    · exact .truncated _ _
    · exact .failed _ _ _

variable [CharacterNames]

/-- A character's name up to the closing brace; `t` follows the opening one, which
stands two characters after `start`. -/
def readNamed (start : Nat) (t : Text) : Outcome Int :=
  let name := t.takeWhile (· ≠ CodePoint.ofChar '\x7d')
  match t.drop name.length with
  | [] => .truncated (start + 2)
  | _ :: rest =>
    let stop := start + 3 + name.length + 1
    match namedCode start name with
    | .ok code => .done code ⟨stop, rest⟩
    | .error fault => .failed fault stop

/-- An escape without modifiers: `c` follows the backslash at `start`, and `t`
follows `c`. -/
def readPlainEscape (start : Nat) (c : CodePoint) (t : Text) : Outcome Int :=
  if c = 'x' then readHex start (start + 2) t
  else if c.isDigitOf 8 then readDigits (start + 1) 8 (codeDigits 8 3 (c :: t)) (c :: t)
  else if c = 'u' then readExactHex start (start + 2) 4 t
  else if c = 'U' then readExactHex start (start + 2) 8 t
  else if c = 'N' ∧ t.head? = some (CodePoint.ofChar '\x7b') then readNamed start t.tail
  else .done (simpleEscape c) ⟨start + 2, t⟩

mutual

/-- An escape; the text follows the backslash at `start`. -/
def readEscape (start : Nat) : Text → Outcome Int
  | [] => .truncated (start + 1)
  | c :: rest =>
    if c = '^' then (readModified (start + 2) rest).map applyControl
    else match Modifier.ofLetter? c, rest with
      | some m, d :: body =>
        if d = '-' then (readModified (start + 3) body).map m.apply
        else readPlainEscape start c (d :: body)
      | _, rest => readPlainEscape start c rest

/-- The character after a modifier, itself possibly an escape. -/
def readModified (pos : Nat) : Text → Outcome Int
  | [] => .truncated pos
  | c :: rest => if c = '\\' then readEscape pos rest else .done c.val ⟨pos + 1, rest⟩

end

/-! ## Progress -/

theorem readNamed_from (start : Nat) (t : Text) : (readNamed start t).From ⟨start + 3, t⟩ := by
  unfold readNamed
  dsimp only
  split
  · exact .truncated _ _
  · rename_i c rest hd
    split
    · refine (Outcome.From.done _ _).of_reaches ?_
      have h := Cursor.reaches_drop (start + 3) _ t
        (List.takeWhile_prefix (· ≠ CodePoint.ofChar '\x7d')).length_le
      rw [hd] at h
      exact h.trans (Cursor.advances_cons _ c rest).reaches
    · exact .failed _ _ _

theorem readPlainEscape_from (start : Nat) (c : CodePoint) (t : Text) :
    (readPlainEscape start c t).From ⟨start + 1, c :: t⟩ := by
  have hc := (Cursor.advances_cons (start + 1) c t).reaches
  unfold readPlainEscape
  split
  · exact (readHex_from _ _ _).of_reaches hc
  · split
    · exact readDigits_from _ _ (codeDigits_length_le _ _ _)
    · split
      · exact (readExactHex_from _ _ _ _).of_reaches hc
      · split
        · exact (readExactHex_from _ _ _ _).of_reaches hc
        · split
          · rename_i h
            cases t with
            | nil => simp at h
            | cons b t =>
              exact ((readNamed_from _ _).of_reaches
                (Cursor.advances_cons (start + 2) b t).reaches).of_reaches hc
          · exact (Outcome.From.done _ _).of_reaches hc

mutual

theorem readEscape_from (start : Nat) (t : Text) : (readEscape start t).From ⟨start + 1, t⟩ := by
  match t with
  | [] => exact .truncated _ _
  | c :: rest =>
    rw [readEscape.eq_def]
    dsimp only
    split
    · exact ((readModified_from _ _).map _).of_reaches (Cursor.advances_cons _ c rest).reaches
    · split
      · rename_i m d body _
        split
        · exact (((readModified_from _ _).map _).of_reaches
            (Cursor.advances_cons (start + 2) d body).reaches).of_reaches
            (Cursor.advances_cons (start + 1) c _).reaches
        · exact readPlainEscape_from _ _ _
      · exact readPlainEscape_from _ _ _

theorem readModified_from (pos : Nat) (t : Text) : (readModified pos t).From ⟨pos, t⟩ := by
  match t with
  | [] => exact .truncated _ _
  | c :: rest =>
    rw [readModified]
    split
    · exact (readEscape_from _ _).of_reaches (Cursor.advances_cons _ c rest).reaches
    · exact (Outcome.From.done _ _).of_reaches (Cursor.advances_cons _ c rest).reaches

end

/-! ## Literals -/

/-- The character of a code inside a string. -/
def stringCharacter (code : Int) : CodePoint :=
  (CodePoint.ofNat? (code % plainCodes).toNat).getD CodePoint.replacement

/-- The characters of a string up to the closing quote. A backslash before a
newline or a space makes both disappear. -/
def readString (cur : Cursor) : Outcome Text :=
  match _h : cur.rest with
  | [] => .truncated cur.pos
  | c :: rest =>
    if c = '\x22' then .done [] ⟨cur.pos + 1, rest⟩
    else if c ≠ '\\' then (readString ⟨cur.pos + 1, rest⟩).map (c :: ·)
    else match rest with
      | [] => .truncated cur.pos
      | d :: rest' =>
        if d = '\n' ∨ d = ' ' then readString ⟨cur.pos + 2, rest'⟩
        else match _he : readEscape cur.pos (d :: rest') with
          | .done code next => (readString next).map (stringCharacter code :: ·)
          | .truncated stop => .truncated stop
          | .failed fault stop => .failed fault stop
termination_by cur.rest.length
decreasing_by
  · simp [_h]
  · simp only [_h, List.length_cons] at *; omega
  · have := (readEscape_from cur.pos (d :: rest') code next _he).length_le
    simp only [_h, List.length_cons] at *; omega

theorem readString_from (cur : Cursor) : (readString cur).From cur := by
  fun_induction readString cur with
  | case1 | case4 | case7 => exact .truncated _ _
  | case8 => exact .failed _ _ _
  | case2 cur rest h => exact (Outcome.From.done _ _).of_reaches (Cursor.reaches_of_rest [_] h)
  | case3 cur c rest h _ _ ih => exact (ih.map _).of_reaches (Cursor.reaches_of_rest [c] h)
  | case5 cur c _ _ d rest h _ _ ih => exact ih.of_reaches (Cursor.reaches_of_rest [c, d] h)
  | case6 cur c _ _ d rest h _ code next he _ ih =>
    exact ((ih.map _).of_reaches (readEscape_from _ _ code next he)).of_reaches
      (Cursor.reaches_of_rest [c] h)

/-- The characters that may follow a character literal. -/
def endsCharacter (c : CodePoint) : Bool :=
  isBlank c || isDelimiter c || c = '?' || c = '.'

/-- A character literal; the text follows the question mark at `start`. -/
def readCharacter (start : Nat) (t : Text) : Outcome Form :=
  (readModified (start + 1) t).bind fun code next =>
    match next.rest with
    | [] => .done (.char code) next
    | c :: _ =>
      if endsCharacter c then .done (.char code) next
      else .malformed start .invalidCharacter next.pos

theorem readCharacter_from (start : Nat) (t : Text) :
    (readCharacter start t).From ⟨start + 1, t⟩ := by
  intro f next h
  obtain ⟨code, mid, hm, hf⟩ := Outcome.bind_eq_done.1 h
  have hr := readModified_from _ _ code mid hm
  split at hf
  · cases hf
    exact hr
  · split at hf
    · cases hf
      exact hr
    · cases hf

end LispXref.Reading
