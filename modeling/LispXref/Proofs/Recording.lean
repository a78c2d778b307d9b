-- What a reader answers does not depend on its table. Main statements: reading with a table
-- gives the form that reading alone gives, with its tokens behind those the table held; and
-- each step of a reader, seen without the table, is the step of a session.
import LispXref.Proofs.Sequence
import LispXref.Reading.Reader

namespace LispXref.Reading

/-! ## Forms -/

/-- The forms of contents, without their tokens. -/
def Contents.enclosed (c : Contents) : Enclosed := ⟨c.items, c.tail⟩

/-- Reading with a table ends as reading alone does, and if something was read, its tokens
were entered behind what the table held. -/
structure Recorded.Records {α β : Type} (r : Recorded α) (o : Outcome β) (value : β → α)
    (tokens : β → Table) (table : Table) : Prop where
  outcome_eq : r.outcome = o.map value
  table_eq : ∀ b next, o = .done b next → r.table = table ++ tokens b

namespace Recorded.Records

variable {α β γ δ : Type} {value : β → α} {tokens : β → Table} {value' : δ → γ}
  {tokens' : δ → Table} {table : Table}

theorem truncated (stop : Nat) (left : Table) :
    (Recorded.mk (.truncated stop) left).Records (.truncated stop) value tokens table :=
  ⟨rfl, nofun⟩

theorem failed (fault : Fault) (stop : Nat) (left : Table) :
    (Recorded.mk (.failed fault stop) left).Records (.failed fault stop) value tokens table :=
  ⟨rfl, nofun⟩

/-- A step that enters nothing. -/
theorem silent (o : Outcome α) : (Recorded.mk o table).Records o id (fun _ => []) table := by
  constructor
  · cases o <;> rfl
  · intro _ _ _
    exact (List.append_nil table).symm

theorem map {r : Recorded α} {o : Outcome β} (h : r.Records o value tokens table) {f : α → γ}
    {g : β → δ} (hvalue : ∀ b, value' (g b) = f (value b))
    (htokens : ∀ b, tokens' (g b) = tokens b) : (r.map f).Records (o.map g) value' tokens' table := by
  constructor
  · rw [Recorded.map, h.outcome_eq]
    cases o <;> simp [Outcome.map, hvalue]
  · intro d next hd
    obtain ⟨b, hb, rfl⟩ := Outcome.map_eq_done.1 hd
    rw [htokens]
    exact h.table_eq b next hb

/-- Going on with the table that the first step left. -/
theorem bind {r : Recorded α} {o : Outcome β} (h : r.Records o value tokens table)
    {f : α → Cursor → Table → Recorded γ} {g : β → Cursor → Outcome δ}
    (hf : ∀ b next, o = .done b next →
      (f (value b) next (table ++ tokens b)).Records (g b next) value' tokens' table) :
    (r.bind f).Records (o.bind g) value' tokens' table := by
  cases o with
  | done b next =>
    rw [Recorded.bind_of_done h.outcome_eq, h.table_eq b next rfl]
    exact hf b next rfl
  | truncated stop =>
    rw [Recorded.bind_of_truncated h.outcome_eq]
    exact .truncated stop _
  | failed fault stop =>
    rw [Recorded.bind_of_failed h.outcome_eq]
    exact .failed fault stop _

/-- What is entered from a later table on is entered behind the tokens before it. -/
theorem behind {r : Recorded α} {o : Outcome β} {first : Table}
    (h : r.Records o value tokens (table ++ first)) :
    r.Records o value (fun b => first ++ tokens b) table :=
  ⟨h.outcome_eq, fun b next hb => by rw [h.table_eq b next hb, List.append_assoc]⟩

end Recorded.Records

open Recorded (Records)

/-- What a bracket makes of its contents has the tokens of the contents. -/
theorem Bracket.occurrences_of_build {b : Bracket} {start : Nat} {c : Contents} {next last : Cursor}
    {p : Piece} (h : b.build start c next = .done p last) : p.occurrences = c.occurrences := by
  unfold build at h
  repeat' split at h
  all_goals
    cases h
    try rfl

theorem Bracket.enclose_records (b : Bracket) (start : Nat) (c : Contents) (next : Cursor)
    (table : Table) :
    (Recorded.mk (b.enclose start c.enclosed next) (table ++ c.occurrences)).Records
      (b.build start c next) Piece.form Piece.occurrences table := by
  constructor
  · unfold enclose build Contents.enclosed
    cases b with
    | list => cases htail : c.tail <;> simp [Outcome.map]
    | vector kind => rfl
    | propertied =>
      dsimp only
      split <;> rfl
  · intro p last hp
    rw [occurrences_of_build hp]

variable {known : CharacterNames}

mutual

theorem recordForm_records (x : Lexed) (next : Cursor) (table : Table) :
    (recordForm x next table).Records (readForm x next) Piece.form Piece.occurrences table := by
  rw [recordForm_eq, readForm_eq]
  cases x.lexeme with
  | closer c => exact .failed _ _ _
  | dot => exact .failed _ _ _
  | atom f =>
    constructor
    · cases f <;> rfl
    · rintro _ _ ⟨⟩
      rfl
  | shorthand s =>
    refine (Records.silent (lex next)).bind fun y mid h => ?_
    cases y with
    | none => exact .truncated _ _
    | some y =>
      have hlt := (lex_advances h).length_lt
      rw [List.append_nil]
      exact (recordForm_records y mid table).map (fun _ => rfl) fun _ => rfl
  | opener b =>
    exact (recordItems_records b false next table).bind fun c after _ =>
      b.enclose_records x.start c after table
termination_by 2 * next.rest.length + 1

theorem recordItems_records (b : Bracket) (begun : Bool) (cur : Cursor) (table : Table) :
    (recordItems b begun cur table).Records (readItems b begun cur) Contents.enclosed
      Contents.occurrences table := by
  rw [recordItems_eq, readItems_eq]
  refine (Records.silent (lex cur)).bind fun x mid h => ?_
  rw [List.append_nil]
  cases x with
  | none => exact .truncated _ _
  | some x =>
    have hlt := (lex_advances h).length_lt
    -- An item enters its tokens first, and the items after it enter theirs behind them.
    have item : ((recordForm x mid table).bind fun f after left =>
          (recordItems b true after left).map (.cons f)).Records
        ((readForm x mid).bind fun p after => (readItems b true after).map (.cons p))
        Contents.enclosed Contents.occurrences table := by
      refine (recordForm_records x mid table).bind fun p after hp => ?_
      have hle := (readForm_from x mid p after hp).length_le
      have others := (recordItems_records b true after (table ++ p.occurrences)).behind
      exact others.map (fun _ => rfl) fun _ => rfl
    obtain ⟨start, lexeme⟩ := x
    cases lexeme with
    | closer c =>
      dsimp only [id]
      split
      · refine ⟨rfl, ?_⟩
        rintro _ _ ⟨⟩
        exact (List.append_nil table).symm
      · exact .failed _ _ _
    | dot =>
      dsimp only [id]
      split
      · exact recordTail_records start mid table
      · exact .failed _ _ _
    | opener _ | shorthand _ | atom _ => exact item
termination_by 2 * cur.rest.length

theorem recordTail_records (dot : Nat) (cur : Cursor) (table : Table) :
    (recordTail dot cur table).Records (readAfterDot dot cur) Contents.enclosed
      Contents.occurrences table := by
  rw [recordTail_eq, readAfterDot_eq]
  refine (Records.silent (lex cur)).bind fun x mid h => ?_
  rw [List.append_nil]
  cases x with
  | none => exact .truncated _ _
  | some x =>
    have hlt := (lex_advances h).length_lt
    dsimp only [id]
    split
    · exact .failed _ _ _
    · refine (recordForm_records x mid table).bind fun p after _ => ?_
      exact (Records.silent (closeTail after)).behind.map (fun _ => rfl) fun _ => (List.append_nil _).symm
termination_by 2 * cur.rest.length

end

/-! ## Forms from their first character -/

theorem recordAt_records (pos : Nat) (c : CodePoint) (rest : Text) (table : Table) :
    (recordAt pos c rest table).Records (readFormAt ⟨pos, c :: rest⟩) Piece.form Piece.occurrences
      table := by
  refine (Records.silent (lexemeAt pos c rest)).bind fun x next _ => ?_
  rw [List.append_nil]
  exact recordForm_records ⟨pos, x⟩ next table

theorem readFormAt_closer (pos : Nat) {c : CodePoint} (h : isCloser c = true) (rest : Text) :
    readFormAt ⟨pos, c :: rest⟩ = .malformed pos (.unexpectedCloser c) pos := by
  unfold readFormAt
  dsimp only
  rw [lexemeAt_closer pos h rest]
  simp only [Outcome.bind, readForm_eq]

/-- The span of the expression at a place, unless a closing delimiter or nothing is there. -/
def expressionAt [CharacterNames] (q : Cursor) : Outcome (Option Span) :=
  match q.rest with
  | [] => .done none q
  | c :: _ =>
    if isCloser c then .done none q
    else (readFormAt q).bind fun _ after => .done (some (.ofNat q.pos after.pos)) after

theorem lex_bind_scanExpression (cur : Cursor) :
    (lex cur).bind scanExpression = (skipBlanks cur).bind fun _ q => expressionAt q := by
  unfold lex expressionAt readFormAt
  cases skipBlanks cur with
  | truncated stop | failed fault stop => rfl
  | done _ q =>
    simp only [Outcome.bind]
    obtain ⟨pos, rest⟩ := q
    cases rest with
    | nil => rfl
    | cons c rest =>
      dsimp only
      by_cases hc : isCloser c = true
      · rw [if_pos hc, lexemeAt_closer pos hc rest]
        rfl
      · rw [if_neg hc]
        cases hx : lexemeAt pos c rest with
        | truncated stop | failed fault stop => rfl
        | done x next =>
          simp only [Outcome.map, scanExpression]
          split
          · exact absurd (isCloser_of_lexemeAt hx) hc
          · rfl

/-- A scan looks for its expression behind the blanks, and behind a lone dot. -/
theorem scan_eq_expressionAt (cur : Cursor) :
    scan cur = (skipToExpression cur).bind fun _ q => expressionAt q := by
  unfold scan skipToExpression
  cases hs : skipBlanks cur with
  | truncated stop | failed fault stop =>
    simp only [lex, hs, Outcome.bind]
  | done _ q =>
    have hlex : (lex cur).bind scanExpression = expressionAt q := by
      rw [lex_bind_scanExpression, hs]
      rfl
    obtain ⟨pos, rest⟩ := q
    cases rest with
    | nil =>
      simp only [lex, hs, Outcome.bind] at hlex ⊢
      exact hlex
    | cons c rest =>
      simp only [lex, hs, Outcome.bind] at hlex ⊢
      by_cases hdot : c = '.' ∧ standsAlone rest = true
      · obtain ⟨rfl, halone⟩ := hdot
        rw [if_pos ⟨rfl, halone⟩, lexemeAt_dot pos halone]
        exact lex_bind_scanExpression ⟨pos + 1, rest⟩
      · rw [if_neg hdot]
        cases hx : lexemeAt pos c rest with
        | truncated stop | failed fault stop =>
          rw [hx] at hlex
          exact hlex
        | done x next =>
          rw [hx] at hlex
          rcases lexemeAt_startsForm pos c rest x next hx with hstarts | ⟨rfl, _⟩ | ⟨_, hc, halone⟩
          · cases x with
            | closer _ | dot => cases hstarts
            | opener _ | shorthand _ | atom _ => exact hlex
          · exact hlex
          · exact absurd ⟨hc, halone⟩ hdot

/-! ## Steps -/

namespace Reader

/-- The reader without its table. -/
def session (r : Reader) : Session := ⟨r.text, r.pos⟩

/-- A step of a reader shows what a step of a session answers, and where it ends. A fault is
reported with the reader's path. -/
structure Shows {α : Type} (r : Reader) (step : Except FileFault α × Reader)
    (expected : Except Fault α × Session) : Prop where
  answer : step.1 = expected.1.mapError (FileFault.mk r.path)
  session : step.2.session = expected.2
  path : step.2.path = r.path

theorem readNext_shows [CharacterNames] (r : Reader) : r.Shows r.readNext r.session.readNext := by
  unfold Reader.readNext Session.readNext
  rw [nextForm_eq, show Cursor.ofText r.session.text r.session.pos = .ofText r.text r.pos from rfl]
  cases skipBlanks (.ofText r.text r.pos) with
  | truncated stop | failed fault stop => exact ⟨rfl, rfl, rfl⟩
  | done _ q =>
    obtain ⟨pos, rest⟩ := q
    cases rest with
    | nil => exact ⟨rfl, rfl, rfl⟩
    | cons c rest =>
      simp only [Outcome.bind, List.cons_ne_nil, if_false]
      by_cases hc : isCloser c = true
      · rw [if_pos hc, readFormAt_closer pos hc rest]
        exact ⟨rfl, rfl, rfl⟩
      · rw [if_neg hc]
        obtain ⟨houtcome, htable⟩ := recordAt_records pos c rest []
        rw [houtcome]
        cases hform : readFormAt ⟨pos, c :: rest⟩ with
        | truncated stop | failed fault stop => exact ⟨rfl, rfl, rfl⟩
        | done p after =>
          -- The table was empty before, so it holds the tokens of this form and no others.
          rw [htable p after hform]
          exact ⟨rfl, rfl, rfl⟩

theorem scan_shows [CharacterNames] (r : Reader) (pos : Nat) (limit : Option Int) :
    r.Shows (r.scan pos limit) (r.session.scan pos limit) := by
  unfold Reader.scan Session.scan
  rw [scan_eq_expressionAt, show r.session.text = r.text from rfl]
  cases skipToExpression (.ofText r.text pos) with
  | truncated stop | failed fault stop => exact ⟨rfl, rfl, rfl⟩
  | done _ q =>
    obtain ⟨start, rest⟩ := q
    cases rest with
    | nil => exact ⟨rfl, rfl, rfl⟩
    | cons c rest =>
      simp only [Outcome.bind, expressionAt]
      by_cases hc : isCloser c = true
      · rw [if_pos hc, if_pos hc]
        exact ⟨rfl, rfl, rfl⟩
      · rw [if_neg hc, if_neg hc, (recordAt_records start c rest []).outcome_eq]
        cases readFormAt ⟨start, c :: rest⟩ <;> exact ⟨rfl, rfl, rfl⟩

/-- Where no form is left, reading gets to the end of the text. -/
theorem pos_of_nextForm_none {text : Text} {pos : Nat} {next : Cursor} (hpos : pos ≤ text.length)
    (h : nextForm (.ofText text pos) = .done none next) : next.pos = text.length := by
  rw [nextForm_eq] at h
  obtain ⟨_, q, hq, hnone⟩ := Outcome.bind_eq_done.1 h
  obtain ⟨taken, hrest, hlength⟩ := skipBlanks_from _ _ q hq
  split at hnone
  · rename_i hnil
    cases hnone
    rw [hnil, List.append_nil] at hrest
    have htaken := congrArg List.length hrest
    simp only [Cursor.ofText, List.length_drop] at htaken hlength
    omega
  · obtain ⟨p, after, _, hdone⟩ := Outcome.bind_eq_done.1 hnone
    cases hdone

/-- What a request for a form can come to: a form or the end of the text, a form that the
text breaks off, or a fault. The table aside, this is all that a reader knows. -/
theorem readNext_cases (r : Reader) :
    (∃ p next, nextForm (.ofText r.text r.pos) = .done p next ∧
      ∃ table, r.readNext = (.ok p, ⟨r.text, r.path, next.pos, table⟩)) ∨
    (∃ stop, nextForm (.ofText r.text r.pos) = .truncated stop ∧
      ∃ table, r.readNext = (.ok none, ⟨r.text, r.path, r.text.length, table⟩)) ∨
    ∃ fault stop, nextForm (.ofText r.text r.pos) = .failed fault stop ∧
      ∃ table, r.readNext = (.error ⟨r.path, fault⟩, ⟨r.text, r.path, stop, table⟩) := by
  have hshows := r.readNext_shows
  unfold Session.readNext at hshows
  rw [show Cursor.ofText r.session.text r.session.pos = .ofText r.text r.pos from rfl] at hshows
  generalize r.readNext = step at hshows ⊢
  obtain ⟨answer, text, path, pos, table⟩ := step
  cases hnext : nextForm (.ofText r.text r.pos) with
  | done p next =>
    rw [hnext] at hshows
    obtain ⟨hanswer, hsession, hpath⟩ := hshows
    cases hanswer
    cases hsession
    cases hpath
    exact .inl ⟨p, next, rfl, table, rfl⟩
  | truncated stop =>
    rw [hnext] at hshows
    obtain ⟨hanswer, hsession, hpath⟩ := hshows
    cases hanswer
    cases hsession
    cases hpath
    exact .inr (.inl ⟨stop, rfl, table, rfl⟩)
  | failed fault stop =>
    rw [hnext] at hshows
    obtain ⟨hanswer, hsession, hpath⟩ := hshows
    cases hanswer
    cases hsession
    cases hpath
    exact .inr (.inr ⟨fault, _, rfl, table, rfl⟩)

/-- What reading on to the end shows. -/
def readOnView [CharacterNames] (r : Reader) : Except Fault (List Positioned) × Session :=
  match readForms (.ofText r.text r.pos) with
  | .ok forms => (.ok forms, ⟨r.text, r.text.length⟩)
  | .error halt => (.error halt.fault, ⟨r.text, halt.stop⟩)

theorem readOn_shows (r : Reader) (hpos : r.pos ≤ r.text.length) : r.Shows r.readOn r.readOnView := by
  fun_induction readOn r with
  | case1 r p next h others ih =>
    obtain ⟨htext, _, hle⟩ := readNext_advances h
    rcases r.readNext_cases with ⟨q, cur, hnext, table, hread⟩ | ⟨_, _, _, hread⟩ | ⟨_, _, _, _, hread⟩
    · cases h.symm.trans hread
      obtain ⟨hanswer, hsession, hpath⟩ := ih hle
      have hcur : cur = .ofText r.text cur.pos := (nextForm_advances hnext).reaches.eq_ofText
      have hforms := readForms_of_nextForm hnext
      rw [hcur] at hforms
      unfold readOnView at hanswer hsession ⊢
      rw [hforms]
      dsimp only at hanswer hsession hpath ⊢
      cases hrest : readForms (.ofText r.text cur.pos) with
      | ok forms =>
        rw [hrest] at hanswer hsession
        refine ⟨?_, hsession, hpath⟩
        rw [hanswer]
        rfl
      | error halt =>
        rw [hrest] at hanswer hsession
        refine ⟨?_, hsession, hpath⟩
        rw [hanswer]
        rfl
    · cases h.symm.trans hread
    · cases h.symm.trans hread
  | case2 r next h =>
    rcases r.readNext_cases with ⟨q, cur, hnext, table, hread⟩ | ⟨stop, hnext, table, hread⟩ | ⟨_, _, _, _, hread⟩
    · cases h.symm.trans hread
      have hend := pos_of_nextForm_none hpos hnext
      unfold readOnView
      rw [readForms.eq_def, hnext, hend]
      exact ⟨rfl, rfl, rfl⟩
    · cases h.symm.trans hread
      unfold readOnView
      rw [readForms.eq_def, hnext]
      exact ⟨rfl, rfl, rfl⟩
    · cases h.symm.trans hread
  | case3 r f next h =>
    rcases r.readNext_cases with ⟨_, _, _, _, hread⟩ | ⟨_, _, _, hread⟩ | ⟨fault, stop, hnext, table, hread⟩
    · cases h.symm.trans hread
    · cases h.symm.trans hread
    · cases h.symm.trans hread
      unfold readOnView
      rw [readForms.eq_def, hnext]
      exact ⟨rfl, rfl, rfl⟩

theorem readAll_shows [CharacterNames] (r : Reader) : r.Shows r.readAll r.session.readAll := by
  obtain ⟨hanswer, hsession, hpath⟩ := (r.seek 0).readOn_shows (Nat.zero_le _)
  exact ⟨hanswer, hsession, hpath⟩

end Reader

end LispXref.Reading
