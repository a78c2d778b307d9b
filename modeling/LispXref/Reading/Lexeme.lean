-- Lexemes: the pieces that forms are made of. An atom is one lexeme; brackets,
-- closing delimiters, lone dots and shorthand marks are the others. Main
-- statement: a lexeme is never empty, so reading one always moves on.
import LispXref.Reading.Character

namespace LispXref.Reading

/-- The brackets that open a compound. -/
inductive Bracket where
  /-- Opened by `(`. -/
  | list
  /-- Opened by `[`, `#s(` or `#[`. -/
  | vector (kind : VectorKind)
  /-- Opened by `#(`: a string followed by its text properties. -/
  | propertied
  deriving DecidableEq

/-- The delimiter that closes what a bracket opens. -/
def Bracket.closer : Bracket → CodePoint
  | .list => ')'
  | .vector .plain => ']'
  | .vector .record => ')'
  | .vector .bytecode => ']'
  | .propertied => ')'

/-- The closing delimiters. -/
def isCloser (c : CodePoint) : Bool := c = ')' || c = ']'

/-- The delimiters are the characters that start no token, apart from blanks. -/
theorem isDelimiter_eq_false {c : CodePoint} (h1 : c ≠ '(') (h2 : c ≠ '[') (h3 : isCloser c = false)
    (h4 : c ≠ '\x22') (h5 : c ≠ '\x27') (h6 : c ≠ '\x60') (h7 : c ≠ ',') (h8 : c ≠ '#')
    (h9 : c ≠ ';') : isDelimiter c = false := by
  simp only [isCloser, Bool.or_eq_false_iff, decide_eq_false_iff_not] at h3
  simp [isDelimiter, h1, h2, h3, h4, h5, h6, h7, h8, h9]

/-- A piece that forms are made of. -/
inductive Lexeme where
  | opener (bracket : Bracket)
  | closer (c : CodePoint)
  | dot
  | shorthand (s : Shorthand)
  | atom (form : Form)

/-- The closing parenthesis. -/
def Lexeme.isParenthesis : Lexeme → Bool
  | .closer c => c = ')'
  | _ => false

/-- A lexeme and the offset of its first character. -/
structure Lexed where
  start : Nat
  lexeme : Lexeme

/-- A dot stands alone when nothing, a blank or a delimiter follows it. -/
def standsAlone (t : Text) : Bool :=
  match t with
  | [] => true
  | c :: _ => isBlank c || isDelimiter c

/-! ## Atoms -/

/-- A symbol or number; `t` starts at `pos`. -/
def readAtom (pos : Nat) (t : Text) : Outcome Lexeme :=
  (readToken pos t).bind fun token next =>
    match token.form with
    | .ok f => .done (.atom f) next
    | .error e => .failed (.numeral token.name e) next.pos

/-- A token that is a symbol whatever it spells. -/
def readSymbol (pos : Nat) (interned : Bool) (t : Text) : Outcome Lexeme :=
  (readToken pos t).map fun token => .atom (.symbol ⟨token.name, interned⟩)

/-- An integer of a radix; its `#` stands at `start`, its digits at `pos`. -/
def readInteger (start radix pos : Nat) (t : Text) : Outcome Lexeme :=
  (readToken pos t).bind fun token next =>
    match Numeral.parse radix token.name with
    | .ok n => .done (.atom (.int n)) next
    | .error _ => .malformed start (.invalidInteger radix token.name) next.pos

/-- The radix of a letter after `#`. -/
def radixOf? (c : CodePoint) : Option Nat :=
  if c.lowerAscii = 'x' then some 16
  else if c.lowerAscii = 'o' then some 8
  else if c.lowerAscii = 'b' then some 2
  else none

/-- A number after `#`: the text follows the `#` at `start` and begins with a
digit. Only a radix may be given this way. -/
def readRadix (start : Nat) (t : Text) : Outcome Lexeme :=
  let digits := t.takeWhile CodePoint.isDigit
  match t.drop digits.length with
  | [] => .truncated start
  | c :: rest =>
    if c.lowerAscii ≠ 'r' then .malformed start .labelledStructure start
    else match Numeral.parse 10 digits with
      | .error e => .failed (.numeral digits e) start
      | .ok radix =>
        if radix < 2 ∨ 36 < radix then .malformed start (.invalidRadix radix.toNat) start
        else readInteger start radix.toNat (start + 1 + digits.length + 1) rest

theorem readInteger_from (start radix pos : Nat) (t : Text) :
    (readInteger start radix pos t).From ⟨pos, t⟩ := by
  refine (readToken_from pos t).bind fun token next => ?_
  split
  · exact .done _ _
  · exact .failed _ _ _

/-- The place after the digits in front of a text and one more character. -/
theorem reaches_afterDigits (pos : Nat) {t rest : Text} {c : CodePoint}
    (h : t.drop (t.takeWhile CodePoint.isDigit).length = c :: rest) :
    Cursor.Reaches ⟨pos, t⟩ ⟨pos + (t.takeWhile CodePoint.isDigit).length + 1, rest⟩ := by
  have hd := Cursor.reaches_drop pos _ t (List.takeWhile_prefix CodePoint.isDigit).length_le
  rw [h] at hd
  exact hd.trans (Cursor.advances_cons _ c rest).reaches

theorem readRadix_from (start : Nat) (t : Text) : (readRadix start t).From ⟨start + 1, t⟩ := by
  unfold readRadix
  dsimp only
  split
  · exact .truncated _ _
  · rename_i c rest hd
    split
    · exact .failed _ _ _
    · split
      · exact .failed _ _ _
      · split
        · exact .failed _ _ _
        · exact (readInteger_from _ _ _ _).of_reaches (reaches_afterDigits _ hd)

variable [CharacterNames]

/-- A bool-vector: the text follows the `#&` at `start`. -/
def readBoolVector (start : Nat) (t : Text) : Outcome Lexeme :=
  let digits := t.takeWhile CodePoint.isDigit
  match t.drop digits.length with
  | [] => .truncated start
  | c :: rest =>
    if digits.isEmpty ∨ c ≠ '\x22' then .malformed start .invalidBoolVector start
    else (readString ⟨start + 2 + digits.length + 1, rest⟩).bind fun data next =>
      match Numeral.parse 10 digits with
      | .ok n => .done (.atom (.boolVector n.toNat data)) next
      | .error e => .failed (.numeral digits e) next.pos

/-! ## Lexemes -/

/-- A lexeme that starts with the `#` at `start`. -/
def readDispatch (start : Nat) (t : Text) : Outcome Lexeme :=
  match t with
  | [] => .truncated start
  | c :: rest =>
    if c = '\x27' then .done (.shorthand .function) ⟨start + 2, rest⟩
    else if c = 's' ∧ rest.head? = some (CodePoint.ofChar '(') then
      .done (.opener (.vector .record)) ⟨start + 3, rest.tail⟩
    else if c = '[' then .done (.opener (.vector .bytecode)) ⟨start + 2, rest⟩
    else if c = '(' then .done (.opener .propertied) ⟨start + 2, rest⟩
    else if c = '&' then readBoolVector start rest
    else if c = ':' then readSymbol (start + 2) false rest
    else if c = '#' then .done (.atom (.symbol (.intern []))) ⟨start + 2, rest⟩
    else if c = '_' then readSymbol (start + 2) true rest
    else match radixOf? c with
      | some radix => readInteger start radix (start + 2) rest
      | none =>
        if c.isDigit then readRadix start (c :: rest)
        else .malformed start (.invalidDispatch c) start

/-- The lexeme that starts with `c` at `pos`. -/
def lexemeAt (pos : Nat) (c : CodePoint) (rest : Text) : Outcome Lexeme :=
  if c = '(' then .done (.opener .list) ⟨pos + 1, rest⟩
  else if c = '[' then .done (.opener (.vector .plain)) ⟨pos + 1, rest⟩
  else if isCloser c then .done (.closer c) ⟨pos + 1, rest⟩
  else if c = '\x22' then (readString ⟨pos + 1, rest⟩).map fun value => .atom (.string value)
  else if c = '?' then (readCharacter pos rest).map .atom
  else if c = '\x27' then .done (.shorthand .quote) ⟨pos + 1, rest⟩
  else if c = '\x60' then .done (.shorthand .backquote) ⟨pos + 1, rest⟩
  else if c = ',' then
    if rest.head? = some (CodePoint.ofChar '@') then .done (.shorthand .commaAt) ⟨pos + 2, rest.tail⟩
    else .done (.shorthand .comma) ⟨pos + 1, rest⟩
  else if c = '#' then readDispatch pos rest
  else if c = '.' ∧ standsAlone rest then .done .dot ⟨pos + 1, rest⟩
  else readAtom pos (c :: rest)

/-- The next lexeme after blanks and comments, or nothing at the end of the
text. -/
def lex (cur : Cursor) : Outcome (Option Lexed) :=
  (skipBlanks cur).bind fun _ mid =>
    match mid.rest with
    | [] => .done none mid
    | c :: rest => (lexemeAt mid.pos c rest).map fun x => some ⟨mid.pos, x⟩

/-! ## Progress -/

theorem readBoolVector_from (start : Nat) (t : Text) :
    (readBoolVector start t).From ⟨start + 2, t⟩ := by
  unfold readBoolVector
  dsimp only
  split
  · exact .truncated _ _
  · rename_i c rest hd
    split
    · exact .failed _ _ _
    · refine Outcome.From.of_reaches ?_ (reaches_afterDigits _ hd)
      refine (readString_from _).bind fun data next => ?_
      split
      · exact .done _ _
      · exact .failed _ _ _

theorem readDispatch_from (start : Nat) (t : Text) :
    (readDispatch start t).From ⟨start + 1, t⟩ := by
  cases t with
  | nil => exact .truncated _ _
  | cons c rest =>
    have hc := (Cursor.advances_cons (start + 1) c rest).reaches
    have opened : ∀ x : Lexeme, (Outcome.done x ⟨start + 2, rest⟩).From ⟨start + 1, c :: rest⟩ :=
      fun _ => (Outcome.From.done _ _).of_reaches hc
    have symbol : ∀ interned, (readSymbol (start + 2) interned rest).From ⟨start + 1, c :: rest⟩ :=
      fun _ => ((readToken_from _ _).map _).of_reaches hc
    unfold readDispatch
    refine .ite (fun _ => opened _) fun _ => .ite (fun h => ?_) fun _ => .ite (fun _ => opened _)
      fun _ => .ite (fun _ => opened _) fun _ => .ite (fun _ => ?_) fun _ => .ite (fun _ => symbol _)
      fun _ => .ite (fun _ => opened _) fun _ => .ite (fun _ => symbol _) fun _ => ?_
    · cases rest with
      | nil => simp at h
      | cons d rest =>
        exact ((Outcome.From.done _ _).of_reaches
          (Cursor.advances_cons (start + 2) d rest).reaches).of_reaches hc
    · exact (readBoolVector_from _ _).of_reaches hc
    · cases radixOf? c with
      | some radix => exact (readInteger_from _ _ _ _).of_reaches hc
      | none => exact .ite (fun _ => readRadix_from _ _) fun _ => .failed _ _ _

/-- A lexeme has at least one character. -/
theorem lexemeAt_after (pos : Nat) (c : CodePoint) (rest : Text)
    (hb : isBlank c = false) (hs : c ≠ ';') :
    (lexemeAt pos c rest).After ⟨pos, c :: rest⟩ := by
  have hc := Cursor.advances_cons pos c rest
  have one : ∀ x : Lexeme, (Outcome.done x ⟨pos + 1, rest⟩).After ⟨pos, c :: rest⟩ :=
    fun _ => (Outcome.From.done _ _).after hc
  unfold lexemeAt
  refine .ite (fun _ => one _) fun h1 => .ite (fun _ => one _) fun h2 => .ite (fun _ => one _)
    fun h3 => .ite (fun _ => ((readString_from _).map _).after hc) fun h4 => .ite
    (fun _ => ((readCharacter_from _ _).map _).after hc) fun _ => .ite (fun _ => one _) fun h5 => .ite
    (fun _ => one _) fun h6 => .ite (fun _ => .ite (fun h => ?_) fun _ => one _) fun h7 => .ite
    (fun _ => (readDispatch_from _ _).after hc) fun h8 => .ite (fun _ => one _) fun _ => ?_
  · cases rest with
    | nil => simp at h
    | cons d rest =>
      exact ((Outcome.From.done _ _).of_reaches
        (Cursor.advances_cons (pos + 1) d rest).reaches).after hc
  · have hd := isDelimiter_eq_false h1 h2 (by simpa using h3) h4 h5 h6 h7 h8 hs
    refine (readToken_after pos c rest hb hd).bind fun token next => ?_
    cases token.form with
    | ok f => exact .done _ _
    | error e => exact .failed _ _ _

theorem lex_from (cur : Cursor) : (lex cur).From cur := by
  intro x next h
  obtain ⟨_, mid, hm, hx⟩ := Outcome.bind_eq_done.1 h
  have hr := skipBlanks_from cur () mid hm
  split at hx
  · cases hx
    exact hr
  · rename_i c rest hrest
    obtain ⟨hb, hs⟩ := skipBlanks_stop cur mid hm c rest hrest
    obtain ⟨y, hy, _⟩ := Outcome.map_eq_done.1 hx
    have ha := lexemeAt_after mid.pos c rest hb hs y next hy
    rw [← hrest] at ha
    exact hr.trans ha.reaches

/-- Reading a lexeme passes a character. -/
theorem lex_advances {cur next : Cursor} {x : Lexed} (h : lex cur = .done (some x) next) :
    cur.Advances next := by
  obtain ⟨_, mid, hm, hx⟩ := Outcome.bind_eq_done.1 h
  have hr := skipBlanks_from cur () mid hm
  split at hx
  · cases hx
  · rename_i c rest hrest
    obtain ⟨hb, hs⟩ := skipBlanks_stop cur mid hm c rest hrest
    obtain ⟨y, hy, _⟩ := Outcome.map_eq_done.1 hx
    have ha := lexemeAt_after mid.pos c rest hb hs y next hy
    rw [← hrest] at ha
    exact hr.trans_advances ha

end LispXref.Reading
