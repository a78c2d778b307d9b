-- Reading one form. A form starts with a lexeme: an atom is complete with it, a
-- shorthand mark needs one more form, and a bracket needs items up to its
-- closing delimiter. Along with the form, reading collects the places of its
-- symbol tokens, in the order of the text.
import LispXref.Reading.Lexeme

namespace LispXref.Reading

/-- A symbol token: its symbol, where it starts and how long it is. -/
structure Occurrence where
  symbol : Symbol
  offset : Nat
  length : Nat
  deriving DecidableEq

/-- A form with its symbol tokens, at offsets of the whole text. -/
structure Piece where
  form : Form
  occurrences : List Occurrence
  deriving DecidableEq

/-- What stands between brackets: items, perhaps a form after a dot, and the
symbol tokens of all of them. -/
structure Contents where
  items : List Form
  tail : Option Form
  occurrences : List Occurrence

namespace Piece

/-- An atom between two offsets. Only a symbol is a symbol token. -/
def ofAtom (start stop : Nat) (f : Form) : Piece :=
  match f with
  | .symbol s => ⟨f, [⟨s, start, stop - start⟩]⟩
  | _ => ⟨f, []⟩

/-- The form after a shorthand mark together with the mark. The mark itself is no
symbol token. -/
def shorthand (s : Shorthand) (p : Piece) : Piece := ⟨s.apply p.form, p.occurrences⟩

end Piece

namespace Contents

/-- Nothing between the brackets. -/
def empty : Contents := ⟨[], none, []⟩

/-- Puts an item in front. -/
def cons (p : Piece) (c : Contents) : Contents :=
  ⟨p.form :: c.items, c.tail, p.occurrences ++ c.occurrences⟩

/-- Only a form after a dot. -/
def ofTail (p : Piece) : Contents := ⟨[], some p.form, p.occurrences⟩

end Contents

namespace Bracket

/-- Why a closing delimiter does not close the bracket. -/
def refusal (b : Bracket) (c : CodePoint) : Reason :=
  match b with
  | .list => .squareInList
  | _ => .unexpectedCloser c

/-- The compound that a bracket at `start` makes of its contents. Text properties
are dropped from their string. -/
def build (b : Bracket) (start : Nat) (c : Contents) (next : Cursor) : Outcome Piece :=
  match b with
  | .list =>
    match c.tail with
    | none => .done ⟨.list c.items, c.occurrences⟩ next
    | some t => .done ⟨.dotted c.items t, c.occurrences⟩ next
  | .vector kind => .done ⟨.vector kind c.items, c.occurrences⟩ next
  | .propertied =>
    match c.items with
    | .string value :: _ => .done ⟨.string value, c.occurrences⟩ next
    | _ => .malformed start .invalidStringProperties next.pos

theorem build_from (b : Bracket) (start : Nat) (c : Contents) (next : Cursor) :
    (b.build start c next).From next := by
  unfold build
  split
  · split
    · exact .done _ _
    · exact .done _ _
  · exact .done _ _
  · split
    · exact .done _ _
    · exact .failed _ _ _

end Bracket

/-- The parenthesis that must follow the form after a dot. -/
def closeTail (cur : Cursor) : Outcome Unit :=
  (skipBlanks cur).bind fun _ mid =>
    match mid.rest with
    | [] => .truncated mid.pos
    | c :: rest =>
      if c = ')' then .done () ⟨mid.pos + 1, rest⟩
      else .malformed mid.pos .manyAfterDot mid.pos

theorem closeTail_from (cur : Cursor) : (closeTail cur).From cur := by
  intro _ next h
  obtain ⟨_, mid, hm, hn⟩ := Outcome.bind_eq_done.1 h
  have hr := skipBlanks_from cur () mid hm
  split at hn
  · cases hn
  · rename_i c rest hrest
    split at hn
    · cases hn
      exact hr.trans (Cursor.reaches_of_rest [c] hrest)
    · cases hn

variable [CharacterNames]

mutual

/-- Completes the form whose first lexeme is `x`; reading goes on at `next`. -/
def completeForm (x : Lexed) (next : Cursor) : { o : Outcome Piece // o.From next } :=
  match x.lexeme with
  | .closer c => ⟨.malformed x.start (.unexpectedCloser c) x.start, .malformed _ _ _ _⟩
  | .dot => ⟨.malformed x.start .invalidDot x.start, .malformed _ _ _ _⟩
  | .atom f => ⟨.done (.ofAtom x.start next.pos f) next, .done _ _⟩
  | .shorthand s =>
    match h : lex next with
    | .done (some y) mid =>
      let inner := completeForm y mid
      ⟨inner.val.map (.shorthand s), (inner.property.map _).of_reaches (lex_advances h).reaches⟩
    | .done none mid => ⟨.truncated mid.pos, .truncated _ _⟩
    | .truncated stop => ⟨.truncated stop, .truncated _ _⟩
    | .failed fault stop => ⟨.failed fault stop, .failed _ _ _⟩
  | .opener b =>
    let contents := readContents b false next
    ⟨contents.val.bind (b.build x.start), contents.property.bind (b.build_from x.start)⟩
termination_by 2 * next.rest.length + 1
decreasing_by
  · have := (lex_advances h).length_lt
    omega
  · omega

/-- Reads items up to the delimiter that closes the bracket. Once a list has
begun, a dot may announce its tail. -/
def readContents (b : Bracket) (begun : Bool) (cur : Cursor) : { o : Outcome Contents // o.From cur } :=
  match h : lex cur with
  | .truncated stop => ⟨.truncated stop, .truncated _ _⟩
  | .failed fault stop => ⟨.failed fault stop, .failed _ _ _⟩
  | .done none mid => ⟨.truncated mid.pos, .truncated _ _⟩
  | .done (some x) mid =>
    match x.lexeme with
    | .closer c =>
      if c = b.closer then ⟨.done .empty mid, (Outcome.From.done _ _).of_reaches (lex_advances h).reaches⟩
      else ⟨.malformed x.start (b.refusal c) x.start, .malformed _ _ _ _⟩
    | .dot =>
      if b = .list ∧ begun then
        let tail := readTail x.start mid
        ⟨tail.val, tail.property.of_reaches (lex_advances h).reaches⟩
      else ⟨.malformed x.start .invalidDot x.start, .malformed _ _ _ _⟩
    | _ =>
      match completeForm x mid with
      | ⟨.done p after, hp⟩ =>
        let others := readContents b true after
        ⟨others.val.map (.cons p), ((others.property.map _).of_reaches (hp p after rfl)).of_reaches
          (lex_advances h).reaches⟩
      | ⟨.truncated stop, _⟩ => ⟨.truncated stop, .truncated _ _⟩
      | ⟨.failed fault stop, _⟩ => ⟨.failed fault stop, .failed _ _ _⟩
termination_by 2 * cur.rest.length
decreasing_by
  · have := (lex_advances h).length_lt
    omega
  · have := (lex_advances h).length_lt
    omega
  · have := (lex_advances h).length_lt
    have := (hp p after rfl).length_le
    omega

/-- Reads the form after the dot at `dot`, and the parenthesis after it. -/
def readTail (dot : Nat) (cur : Cursor) : { o : Outcome Contents // o.From cur } :=
  match h : lex cur with
  | .truncated stop => ⟨.truncated stop, .truncated _ _⟩
  | .failed fault stop => ⟨.failed fault stop, .failed _ _ _⟩
  | .done none mid => ⟨.truncated mid.pos, .truncated _ _⟩
  | .done (some x) mid =>
    if x.lexeme.isParenthesis then ⟨.malformed dot .nothingAfterDot x.start, .malformed _ _ _ _⟩
    else
      let tail := completeForm x mid
      ⟨tail.val.bind fun p after => (closeTail after).map fun _ => .ofTail p,
        (tail.property.bind fun _ after => (closeTail_from after).map _).of_reaches
          (lex_advances h).reaches⟩
termination_by 2 * cur.rest.length
decreasing_by
  have := (lex_advances h).length_lt
  omega

end

/-! ## Reading without the proofs of progress -/

/-- The form whose first lexeme is `x`. -/
def readForm (x : Lexed) (next : Cursor) : Outcome Piece := (completeForm x next).val

/-- The contents of a bracket up to its closing delimiter. -/
def readItems (b : Bracket) (begun : Bool) (cur : Cursor) : Outcome Contents :=
  (readContents b begun cur).val

/-- What follows the dot of a list. -/
def readAfterDot (dot : Nat) (cur : Cursor) : Outcome Contents := (readTail dot cur).val

theorem readForm_from (x : Lexed) (next : Cursor) : (readForm x next).From next :=
  (completeForm x next).property

theorem readItems_from (b : Bracket) (begun : Bool) (cur : Cursor) :
    (readItems b begun cur).From cur :=
  (readContents b begun cur).property

theorem readAfterDot_from (dot : Nat) (cur : Cursor) : (readAfterDot dot cur).From cur :=
  (readTail dot cur).property

/-- A form follows from its first lexeme. -/
theorem readForm_eq (x : Lexed) (next : Cursor) :
    readForm x next = match x.lexeme with
      | .closer c => .malformed x.start (.unexpectedCloser c) x.start
      | .dot => .malformed x.start .invalidDot x.start
      | .atom f => .done (.ofAtom x.start next.pos f) next
      | .shorthand s => (lex next).bind fun y mid =>
        match y with
        | some y => (readForm y mid).map (.shorthand s)
        | none => .truncated mid.pos
      | .opener b => (readItems b false next).bind (b.build x.start) := by
  unfold readForm
  rw [completeForm.eq_def]
  split
  · rfl
  · rfl
  · rfl
  · rename_i s _
    split
    · rename_i y mid h
      rw [Outcome.bind_of_done h]
    · rename_i mid h
      rw [Outcome.bind_of_done h]
    · rename_i stop h
      rw [Outcome.bind_of_truncated h]
    · rename_i fault stop h
      rw [Outcome.bind_of_failed h]
  · rfl

/-- Items are read one after the other. -/
theorem readItems_eq (b : Bracket) (begun : Bool) (cur : Cursor) :
    readItems b begun cur = (lex cur).bind fun x mid =>
      match x with
      | none => .truncated mid.pos
      | some x =>
        match x.lexeme with
        | .closer c =>
          if c = b.closer then .done .empty mid else .malformed x.start (b.refusal c) x.start
        | .dot =>
          if b = .list ∧ begun then readAfterDot x.start mid
          else .malformed x.start .invalidDot x.start
        | _ => (readForm x mid).bind fun p after => (readItems b true after).map (.cons p) := by
  unfold readItems
  rw [readContents.eq_def]
  split
  · rename_i stop h
    rw [Outcome.bind_of_truncated h]
  · rename_i fault stop h
    rw [Outcome.bind_of_failed h]
  · rename_i mid h
    rw [Outcome.bind_of_done h]
  · rename_i x mid h
    rw [Outcome.bind_of_done h]
    dsimp only
    split
    · split <;> rfl
    · split <;> rfl
    · unfold readForm
      split
      · rename_i hf
        rw [hf]
        rfl
      · rename_i hf
        rw [hf]
        rfl
      · rename_i hf
        rw [hf]
        rfl

/-- After a dot stand one form and a parenthesis. -/
theorem readAfterDot_eq (dot : Nat) (cur : Cursor) :
    readAfterDot dot cur = (lex cur).bind fun x mid =>
      match x with
      | none => .truncated mid.pos
      | some x =>
        if x.lexeme.isParenthesis then .malformed dot .nothingAfterDot x.start
        else (readForm x mid).bind fun p after => (closeTail after).map fun _ => .ofTail p := by
  unfold readAfterDot
  rw [readTail.eq_def]
  split
  · rename_i stop h
    rw [Outcome.bind_of_truncated h]
  · rename_i fault stop h
    rw [Outcome.bind_of_failed h]
  · rename_i mid h
    rw [Outcome.bind_of_done h]
  · rename_i x mid h
    rw [Outcome.bind_of_done h]
    dsimp only
    split <;> rfl

end LispXref.Reading
