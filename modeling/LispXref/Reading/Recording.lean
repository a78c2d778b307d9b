-- Reading one form with a table at hand. A symbol token is entered into the table as soon
-- as it is read, and nothing takes it out again: where reading stops in the middle of a
-- form, the table keeps what was entered by then.
import LispXref.Reading.Form

namespace LispXref.Reading

/-- The symbol tokens entered so far, in the order of the text. -/
abbrev Table := List Occurrence

/-- How a step of reading ends, and the table it leaves. -/
structure Recorded (α : Type) where
  outcome : Outcome α
  table : Table

namespace Recorded

variable {α β : Type}

/-- Changes the value that was read. -/
def map (f : α → β) (r : Recorded α) : Recorded β := ⟨r.outcome.map f, r.table⟩

/-- Goes on after a value, with the table as it is then. -/
def bind (r : Recorded α) (f : α → Cursor → Table → Recorded β) : Recorded β :=
  match r.outcome with
  | .done a next => f a next r.table
  | .truncated stop => ⟨.truncated stop, r.table⟩
  | .failed fault stop => ⟨.failed fault stop, r.table⟩

theorem from_bind {start : Cursor} {r : Recorded α} {f : α → Cursor → Table → Recorded β}
    (h : r.outcome.From start) (hf : ∀ a mid left, (f a mid left).outcome.From mid) :
    (r.bind f).outcome.From start := by
  unfold bind
  split
  · rename_i a mid hr
    exact (hf a mid r.table).of_reaches (h a mid hr)
  · exact .truncated _ _
  · exact .failed _ _ _

theorem bind_of_done {r : Recorded α} {a : α} {mid : Cursor} (h : r.outcome = .done a mid)
    (f : α → Cursor → Table → Recorded β) : r.bind f = f a mid r.table := by
  rw [bind, h]

theorem bind_of_truncated {r : Recorded α} {stop : Nat} (h : r.outcome = .truncated stop)
    (f : α → Cursor → Table → Recorded β) : r.bind f = ⟨.truncated stop, r.table⟩ := by
  rw [bind, h]

theorem bind_of_failed {r : Recorded α} {fault : Fault} {stop : Nat}
    (h : r.outcome = .failed fault stop) (f : α → Cursor → Table → Recorded β) :
    r.bind f = ⟨.failed fault stop, r.table⟩ := by
  rw [bind, h]

end Recorded

/-- The forms between brackets: items, and perhaps a form after a dot. -/
structure Enclosed where
  items : List Form
  tail : Option Form

/-- Puts an item in front. -/
def Enclosed.cons (f : Form) (e : Enclosed) : Enclosed := ⟨f :: e.items, e.tail⟩

/-- The compound that a bracket at `start` makes of what it encloses. -/
def Bracket.enclose (b : Bracket) (start : Nat) (e : Enclosed) (next : Cursor) : Outcome Form :=
  (b.build start ⟨e.items, e.tail, []⟩ next).map Piece.form

theorem Bracket.enclose_from (b : Bracket) (start : Nat) (e : Enclosed) (next : Cursor) :
    (b.enclose start e next).From next :=
  (b.build_from start _ next).map _

variable [CharacterNames]

mutual

/-- Completes the form whose first lexeme is `x`, and enters its symbol tokens. -/
def enterForm (x : Lexed) (next : Cursor) (table : Table) :
    { r : Recorded Form // r.outcome.From next } :=
  match x.lexeme with
  | .closer c => ⟨⟨.malformed x.start (.unexpectedCloser c) x.start, table⟩, .malformed _ _ _ _⟩
  | .dot => ⟨⟨.malformed x.start .invalidDot x.start, table⟩, .malformed _ _ _ _⟩
  | .atom f => ⟨⟨.done f next, table ++ (Piece.ofAtom x.start next.pos f).occurrences⟩, .done _ _⟩
  | .shorthand s =>
    match h : lex next with
    | .done (some y) mid =>
      let inner := enterForm y mid table
      ⟨inner.val.map s.apply, (inner.property.map _).of_reaches (lex_advances h).reaches⟩
    | .done none mid => ⟨⟨.truncated mid.pos, table⟩, .truncated _ _⟩
    | .truncated stop => ⟨⟨.truncated stop, table⟩, .truncated _ _⟩
    | .failed fault stop => ⟨⟨.failed fault stop, table⟩, .failed _ _ _⟩
  | .opener b =>
    let enclosed := enterItems b false next table
    ⟨enclosed.val.bind fun e after left => ⟨b.enclose x.start e after, left⟩,
      Recorded.from_bind enclosed.property fun e after _ => b.enclose_from x.start e after⟩
termination_by 2 * next.rest.length + 1
decreasing_by
  · have := (lex_advances h).length_lt
    omega
  · omega

/-- Reads items up to the delimiter that closes the bracket, and enters their symbol tokens. -/
def enterItems (b : Bracket) (begun : Bool) (cur : Cursor) (table : Table) :
    { r : Recorded Enclosed // r.outcome.From cur } :=
  match h : lex cur with
  | .truncated stop => ⟨⟨.truncated stop, table⟩, .truncated _ _⟩
  | .failed fault stop => ⟨⟨.failed fault stop, table⟩, .failed _ _ _⟩
  | .done none mid => ⟨⟨.truncated mid.pos, table⟩, .truncated _ _⟩
  | .done (some x) mid =>
    match x.lexeme with
    | .closer c =>
      if c = b.closer then
        ⟨⟨.done ⟨[], none⟩ mid, table⟩, (Outcome.From.done _ _).of_reaches (lex_advances h).reaches⟩
      else ⟨⟨.malformed x.start (b.refusal c) x.start, table⟩, .malformed _ _ _ _⟩
    | .dot =>
      if b = .list ∧ begun then
        let tail := enterTail x.start mid table
        ⟨tail.val, tail.property.of_reaches (lex_advances h).reaches⟩
      else ⟨⟨.malformed x.start .invalidDot x.start, table⟩, .malformed _ _ _ _⟩
    | _ =>
      match enterForm x mid table with
      | ⟨⟨.done f after, left⟩, hf⟩ =>
        let others := enterItems b true after left
        ⟨others.val.map (.cons f), ((others.property.map _).of_reaches (hf f after rfl)).of_reaches
          (lex_advances h).reaches⟩
      | ⟨⟨.truncated stop, left⟩, _⟩ => ⟨⟨.truncated stop, left⟩, .truncated _ _⟩
      | ⟨⟨.failed fault stop, left⟩, _⟩ => ⟨⟨.failed fault stop, left⟩, .failed _ _ _⟩
termination_by 2 * cur.rest.length
decreasing_by
  · have := (lex_advances h).length_lt
    omega
  · have := (lex_advances h).length_lt
    omega
  · have := (lex_advances h).length_lt
    have := (hf f after rfl).length_le
    omega

/-- Reads the form after the dot at `dot` and the parenthesis after it, and enters the
form's symbol tokens. -/
def enterTail (dot : Nat) (cur : Cursor) (table : Table) :
    { r : Recorded Enclosed // r.outcome.From cur } :=
  match h : lex cur with
  | .truncated stop => ⟨⟨.truncated stop, table⟩, .truncated _ _⟩
  | .failed fault stop => ⟨⟨.failed fault stop, table⟩, .failed _ _ _⟩
  | .done none mid => ⟨⟨.truncated mid.pos, table⟩, .truncated _ _⟩
  | .done (some x) mid =>
    if x.lexeme.isParenthesis then
      ⟨⟨.malformed dot .nothingAfterDot x.start, table⟩, .malformed _ _ _ _⟩
    else
      let tail := enterForm x mid table
      ⟨tail.val.bind fun f after left => ⟨(closeTail after).map fun _ => ⟨[], some f⟩, left⟩,
        (Recorded.from_bind tail.property fun _ after _ => (closeTail_from after).map _).of_reaches
          (lex_advances h).reaches⟩
termination_by 2 * cur.rest.length
decreasing_by
  have := (lex_advances h).length_lt
  omega

end

/-! ## Recording without the proofs of progress -/

/-- The form whose first lexeme is `x`, with its symbol tokens in the table. -/
def recordForm (x : Lexed) (next : Cursor) (table : Table) : Recorded Form :=
  (enterForm x next table).val

/-- What a bracket encloses, with the symbol tokens in the table. -/
def recordItems (b : Bracket) (begun : Bool) (cur : Cursor) (table : Table) : Recorded Enclosed :=
  (enterItems b begun cur table).val

/-- What follows the dot of a list, with the symbol tokens in the table. -/
def recordTail (dot : Nat) (cur : Cursor) (table : Table) : Recorded Enclosed :=
  (enterTail dot cur table).val

/-- A form follows from its first lexeme. -/
theorem recordForm_eq (x : Lexed) (next : Cursor) (table : Table) :
    recordForm x next table = match x.lexeme with
      | .closer c => ⟨.malformed x.start (.unexpectedCloser c) x.start, table⟩
      | .dot => ⟨.malformed x.start .invalidDot x.start, table⟩
      | .atom f => ⟨.done f next, table ++ (Piece.ofAtom x.start next.pos f).occurrences⟩
      | .shorthand s => (Recorded.mk (lex next) table).bind fun y mid left =>
        match y with
        | some y => (recordForm y mid left).map s.apply
        | none => ⟨.truncated mid.pos, left⟩
      | .opener b => (recordItems b false next table).bind fun e after left =>
        ⟨b.enclose x.start e after, left⟩ := by
  unfold recordForm
  rw [enterForm.eq_def]
  split
  · rfl
  · rfl
  · rfl
  · split
    · rename_i y mid h
      rw [Recorded.bind_of_done h]
    · rename_i mid h
      rw [Recorded.bind_of_done h]
    · rename_i stop h
      rw [Recorded.bind_of_truncated h]
    · rename_i fault stop h
      rw [Recorded.bind_of_failed h]
  · rfl

/-- Items are read one after the other, each with the table that the one before left. -/
theorem recordItems_eq (b : Bracket) (begun : Bool) (cur : Cursor) (table : Table) :
    recordItems b begun cur table = (Recorded.mk (lex cur) table).bind fun x mid left =>
      match x with
      | none => ⟨.truncated mid.pos, left⟩
      | some x =>
        match x.lexeme with
        | .closer c =>
          if c = b.closer then ⟨.done ⟨[], none⟩ mid, left⟩
          else ⟨.malformed x.start (b.refusal c) x.start, left⟩
        | .dot =>
          if b = .list ∧ begun then recordTail x.start mid left
          else ⟨.malformed x.start .invalidDot x.start, left⟩
        | _ => (recordForm x mid left).bind fun f after left =>
          (recordItems b true after left).map (.cons f) := by
  unfold recordItems
  rw [enterItems.eq_def]
  split
  · rename_i stop h
    rw [Recorded.bind_of_truncated h]
  · rename_i fault stop h
    rw [Recorded.bind_of_failed h]
  · rename_i mid h
    rw [Recorded.bind_of_done h]
  · rename_i x mid h
    rw [Recorded.bind_of_done h]
    dsimp only
    split
    · split <;> rfl
    · split <;> rfl
    · unfold recordForm
      split
      · rename_i hf
        rw [hf]
        rfl
      · rename_i hf
        rw [hf]
        rfl
      · rename_i hf
        rw [hf]
        rfl

/-- After a dot stand one form and a parenthesis. -/
theorem recordTail_eq (dot : Nat) (cur : Cursor) (table : Table) :
    recordTail dot cur table = (Recorded.mk (lex cur) table).bind fun x mid left =>
      match x with
      | none => ⟨.truncated mid.pos, left⟩
      | some x =>
        if x.lexeme.isParenthesis then ⟨.malformed dot .nothingAfterDot x.start, left⟩
        else (recordForm x mid left).bind fun f after left =>
          ⟨(closeTail after).map fun _ => ⟨[], some f⟩, left⟩ := by
  unfold recordTail
  rw [enterTail.eq_def]
  split
  · rename_i stop h
    rw [Recorded.bind_of_truncated h]
  · rename_i fault stop h
    rw [Recorded.bind_of_failed h]
  · rename_i mid h
    rw [Recorded.bind_of_done h]
  · rename_i x mid h
    rw [Recorded.bind_of_done h]
    dsimp only
    split <;> rfl

/-! ## Forms from their first character -/

/-- Reads the form that starts with `c` at `pos`, and enters its symbol tokens. -/
def recordAt (pos : Nat) (c : CodePoint) (rest : Text) (table : Table) : Recorded Form :=
  (Recorded.mk (lexemeAt pos c rest) table).bind fun x next left => recordForm ⟨pos, x⟩ next left

theorem recordAt_after (pos : Nat) {c : CodePoint} (rest : Text) (table : Table)
    (hb : isBlank c = false) (hs : c ≠ ';') :
    (recordAt pos c rest table).outcome.After ⟨pos, c :: rest⟩ := by
  unfold recordAt Recorded.bind
  split
  · rename_i x next h
    have hx := lexemeAt_after pos c rest hb hs x next h
    exact (enterForm ⟨pos, x⟩ next table).property.after hx
  · exact .truncated _ _
  · exact .failed _ _ _

end LispXref.Reading
