-- Scanning on any text, well formed or not. Main statements: scanning for an expression and
-- reading the next form agree wherever no closing delimiter and no lone dot comes next; and
-- working out child spans ends after a bounded number of scans, with spans in order that do
-- not overlap and lie between the brackets.
import LispXref.Proofs.ChildSpans
import LispXref.Reading.Session
import LispXref.Reading.SomeNames

namespace LispXref

open Reading

namespace Reading

/-! ## What comes next -/

/-- A closing delimiter comes next. -/
def Cursor.atCloser (cur : Cursor) : Bool := cur.rest.head?.any isCloser

/-- A dot that stands alone comes next. -/
def Cursor.atDot (cur : Cursor) : Bool :=
  match cur.rest with
  | [] => false
  | c :: rest => decide (c = '.') && standsAlone rest

/-- Skipping ends somewhere or with a fault, even where the text ends. -/
theorem skipBlanks_done_or_failed (cur : Cursor) :
    (∃ q, skipBlanks cur = .done () q) ∨ ∃ fault stop, skipBlanks cur = .failed fault stop := by
  fun_induction skipBlanks cur with
  | case1 cur | case4 cur | case9 cur | case10 cur => exact .inl ⟨cur, rfl⟩
  | case2 _ _ _ _ _ ih | case3 _ _ _ _ ih | case5 _ _ _ _ _ _ ih | case6 _ _ _ _ _ _ _ _ _ ih =>
    exact ih
  | case7 cur rest stop hb =>
    -- A block is skipped as far as the text goes, so it does not run out of text.
    unfold skipBlock at hb
    dsimp only at hb
    repeat' split at hb
    all_goals cases hb
  | case8 cur rest fault stop => exact .inr ⟨fault, stop, rfl⟩

section Ahead

variable {known : CharacterNames}
variable {cur q next : Cursor} {x : Lexed}

theorem lex_of_atCloser (hs : skipBlanks cur = .done () q) (h : q.atCloser = true) :
    ∃ c rest, q.rest = c :: rest ∧ lex cur = .done (some ⟨q.pos, .closer c⟩) ⟨q.pos + 1, rest⟩ := by
  unfold lex
  rw [Outcome.bind_of_done hs]
  unfold Cursor.atCloser at h
  cases hr : q.rest with
  | nil =>
    rw [hr] at h
    cases h
  | cons c rest =>
    rw [hr] at h
    refine ⟨c, rest, rfl, ?_⟩
    dsimp only
    rw [lexemeAt_closer q.pos h rest]
    rfl

theorem lex_of_atDot (hs : skipBlanks cur = .done () q) (h : q.atDot = true) :
    ∃ rest, q.rest = CodePoint.ofChar '.' :: rest ∧
      lex cur = .done (some ⟨q.pos, .dot⟩) ⟨q.pos + 1, rest⟩ := by
  unfold lex
  rw [Outcome.bind_of_done hs]
  unfold Cursor.atDot at h
  cases hr : q.rest with
  | nil =>
    rw [hr] at h
    cases h
  | cons c rest =>
    rw [hr] at h
    simp only [Bool.and_eq_true, decide_eq_true_eq] at h
    obtain ⟨rfl, halone⟩ := h
    refine ⟨rest, rfl, ?_⟩
    dsimp only
    rw [lexemeAt_dot q.pos halone]
    rfl

/-- A lexeme that starts no form is a closing delimiter or a lone dot that comes next. -/
theorem startsForm_of_lex (hx : lex cur = .done (some x) next) :
    ∃ q, skipBlanks cur = .done () q ∧ (x.lexeme.startsForm = true ∨
      (∃ c, x.lexeme = .closer c) ∧ q.atCloser = true ∨ x.lexeme = .dot ∧ q.atDot = true) := by
  obtain ⟨_, q, hs, hx⟩ := Outcome.bind_eq_done.1 hx
  refine ⟨q, hs, ?_⟩
  split at hx
  · cases hx
  · rename_i c rest hr
    obtain ⟨y, hy, hxy⟩ := Outcome.map_eq_done.1 hx
    cases hxy
    rcases lexemeAt_startsForm q.pos c rest y next hy with hstarts | ⟨rfl, hc⟩ | ⟨rfl, rfl, halone⟩
    · exact .inl hstarts
    · refine .inr (.inl ⟨⟨c, rfl⟩, ?_⟩)
      simp [Cursor.atCloser, hr, hc]
    · refine .inr (.inr ⟨rfl, ?_⟩)
      simp [Cursor.atDot, hr, halone]

theorem ne_closer_of_lex (h : ∀ q, skipBlanks cur = .done () q → q.atCloser = false)
    (hx : lex cur = .done (some x) next) (c : CodePoint) : x.lexeme ≠ .closer c := by
  intro hc
  obtain ⟨q, hs, hlexeme⟩ := startsForm_of_lex hx
  simp [hc, h q hs, Lexeme.startsForm] at hlexeme

theorem ne_dot_of_lex (h : ∀ q, skipBlanks cur = .done () q → q.atDot = false)
    (hx : lex cur = .done (some x) next) : x.lexeme ≠ .dot := by
  intro hd
  obtain ⟨q, hs, hlexeme⟩ := startsForm_of_lex hx
  simp [hd, h q hs, Lexeme.startsForm] at hlexeme

end Ahead

/-! ## Scanning and reading -/

section Scan

variable {known : CharacterNames}
variable {cur q next : Cursor}

/-- Where no closing delimiter comes next, the rest of a scan finds the span of the next form. -/
theorem bind_scanExpression (h : ∀ q, skipBlanks cur = .done () q → q.atCloser = false) :
    (lex cur).bind scanExpression = (nextForm cur).map (Option.map Positioned.span) := by
  unfold nextForm
  cases hx : lex cur with
  | truncated stop | failed fault stop => rfl
  | done x next =>
    cases x with
    | none => rfl
    | some x =>
      have hscan : scanExpression (some x) next =
          (readForm x next).bind fun _ after => .done (some (.ofNat x.start after.pos)) after := by
        unfold scanExpression
        dsimp only
        split
        · rename_i c hc
          exact absurd hc (ne_closer_of_lex h hx c)
        · rfl
      simp only [Outcome.bind]
      rw [hscan]
      cases readForm x next <;> rfl

theorem scan_of_not_atDot (h : ∀ q, skipBlanks cur = .done () q → q.atDot = false) :
    scan cur = (lex cur).bind scanExpression := by
  unfold scan
  cases hx : lex cur with
  | truncated stop | failed fault stop => rfl
  | done x next =>
    simp only [Outcome.bind]
    split
    · exact absurd rfl (ne_dot_of_lex h hx)
    · rfl

/-- A lone dot is passed over, and what is left to do is done behind it. -/
theorem scan_of_atDot {text : Text} {pos : Nat} (hs : skipBlanks (.ofText text pos) = .done () q)
    (h : q.atDot = true) :
    scan (.ofText text pos) = (lex (.ofText text (q.pos + 1))).bind scanExpression := by
  obtain ⟨rest, hr, hx⟩ := lex_of_atDot hs h
  have hrest : rest = text.drop (q.pos + 1) := by
    rw [(skipBlanks_from _ _ _ hs).eq_ofText] at hr
    have hdrop : text.drop q.pos = CodePoint.ofChar '.' :: rest := hr
    rw [← List.drop_drop, hdrop, List.drop_one, List.tail_cons]
  unfold scan
  rw [Outcome.bind_of_done hx, hrest]
  rfl

theorem bind_scanExpression_of_atCloser (hs : skipBlanks cur = .done () q)
    (h : q.atCloser = true) : ∃ next, (lex cur).bind scanExpression = .done none next := by
  obtain ⟨c, rest, _, hx⟩ := lex_of_atCloser hs h
  exact ⟨⟨q.pos, c :: rest⟩, by rw [Outcome.bind_of_done hx]; rfl⟩

theorem nextForm_of_atCloser (hs : skipBlanks cur = .done () q) (h : q.atCloser = true) :
    ∃ c, nextForm cur = .malformed q.pos (.unexpectedCloser c) q.pos := by
  obtain ⟨c, rest, _, hx⟩ := lex_of_atCloser hs h
  refine ⟨c, ?_⟩
  unfold nextForm
  rw [Outcome.bind_of_done hx]
  dsimp only
  rw [readForm_eq]
  rfl

theorem lex_of_failed [CharacterNames] {fault : Fault} {stop : Nat}
    (hs : skipBlanks cur = .failed fault stop) :
    lex cur = .failed fault stop := Outcome.bind_of_failed hs _

end Scan

/-! ## Answers -/

/-- What a step of reading answers, wherever it stops. -/
def Outcome.answer {α : Type} : Outcome (Option α) → Except Fault (Option α)
  | .done value _ => .ok value
  | .truncated _ => .ok none
  | .failed fault _ => .error fault

theorem Outcome.answer_map {α β : Type} (f : α → β) (o : Outcome (Option α)) :
    (o.map (Option.map f)).answer = o.answer.map (Option.map f) := by
  cases o <;> rfl

namespace Session

/-- The span of the next form at or after an offset. -/
def nextSpan [CharacterNames] (s : Session) (pos : Nat) : Except Fault (Option Span) :=
  (s.seek pos).readNext.1.map (Option.map Positioned.span)

section

variable {known : CharacterNames}

theorem nextSpan_eq (s : Session) (pos : Nat) :
    s.nextSpan pos = ((nextForm (.ofText s.text pos)).map (Option.map Positioned.span)).answer := by
  unfold nextSpan readNext
  rw [Outcome.answer_map]
  dsimp only [seek]
  cases nextForm (.ofText s.text pos) <;> rfl

theorem scan_eq (s : Session) (pos : Nat) :
    (s.scan pos none).1 = (Reading.scan (.ofText s.text pos)).answer := by
  unfold scan
  cases Reading.scan (.ofText s.text pos) with
  | done span next => cases span <;> rfl
  | truncated stop | failed fault stop => rfl

theorem scan_limit (s : Session) (pos : Nat) (limit : Int) :
    (s.scan pos (some limit)).1 = match (s.scan pos none).1 with
      | .ok (some e) => .ok (if e.stop ≤ limit then some e else none)
      | answer => answer := by
  unfold scan
  cases Reading.scan (.ofText s.text pos) with
  | done span next =>
    cases span with
    | none => rfl
    | some e => by_cases h : e.stop ≤ limit <;> simp [Option.filter, h]
  | truncated stop | failed fault stop => rfl

/-- Scanning agrees with reading the next form. Both meet the same fault before a form can
start. If neither a closing delimiter nor a lone dot comes then, both answer alike: with the
same fault, with nothing or with the same span. A lone dot is passed over by a scan, which
then answers as reading from behind the dot does, except that it answers a closing delimiter
with nothing. A limit only makes a scan answer with nothing where the expression ends behind
the limit. -/
theorem scan_agrees_with_readNext (s : Session) (pos : Nat) :
    ((∃ fault stop, skipBlanks (.ofText s.text pos) = .failed fault stop ∧
        (s.scan pos none).1 = .error fault ∧ (s.seek pos).readNext.1 = .error fault) ∨
      ∃ q, skipBlanks (.ofText s.text pos) = .done () q ∧
        (q.atCloser = false → q.atDot = false → (s.scan pos none).1 = s.nextSpan pos) ∧
        (q.atDot = true →
          (∀ r, skipBlanks (.ofText s.text (q.pos + 1)) = .done () r → r.atCloser = true →
            (s.scan pos none).1 = .ok none ∧
              ∃ c, s.nextSpan (q.pos + 1) = .error (.malformed r.pos (.unexpectedCloser c))) ∧
          ((∀ r, skipBlanks (.ofText s.text (q.pos + 1)) = .done () r → r.atCloser = false) →
            (s.scan pos none).1 = s.nextSpan (q.pos + 1)))) ∧
    ∀ limit, (s.scan pos (some limit)).1 = match (s.scan pos none).1 with
      | .ok (some e) => .ok (if e.stop ≤ limit then some e else none)
      | answer => answer := by
  refine ⟨?_, s.scan_limit pos⟩
  rcases skipBlanks_done_or_failed (.ofText s.text pos) with ⟨q, hs⟩ | ⟨fault, stop, hs⟩
  · have hq : ∀ q', skipBlanks (.ofText s.text pos) = .done () q' → q' = q := by
      intro q' hq'
      cases hs.symm.trans hq'
      rfl
    refine .inr ⟨q, hs, fun hcloser hdot => ?_, fun hdot => ⟨fun r hr hcloser => ?_, fun hopen => ?_⟩⟩
    · rw [scan_eq, nextSpan_eq, scan_of_not_atDot fun q' h => hq q' h ▸ hdot,
        bind_scanExpression fun q' h => hq q' h ▸ hcloser]
    · obtain ⟨next, hnone⟩ := bind_scanExpression_of_atCloser hr hcloser
      obtain ⟨c, hread⟩ := nextForm_of_atCloser hr hcloser
      rw [scan_eq, scan_of_atDot hs hdot, hnone, nextSpan_eq, hread]
      exact ⟨rfl, c, rfl⟩
    · rw [scan_eq, scan_of_atDot hs hdot, nextSpan_eq, bind_scanExpression hopen]
  · have hx := lex_of_failed hs
    refine .inl ⟨fault, stop, hs, ?_, ?_⟩
    · rw [scan_eq, Reading.scan, Outcome.bind_of_failed hx]
      rfl
    · unfold readNext nextForm
      dsimp only [seek]
      rw [Outcome.bind_of_failed hx]

end

open SomeNames

theorem scan_agrees_with_readNext_closed_dot :
    let s := Session.ofText (Text.of "(a . ) b")
    (s.scan 0 none).1 = s.nextSpan 0 ∧ (s.scan 2 none).1 = .ok none ∧
      ∃ c, s.nextSpan 4 = .error (.malformed 5 (.unexpectedCloser c)) := by
  intro s
  have hstart : skipBlanks (.ofText s.text 0) = .done () (.ofText s.text 0) := by cbv
  have hdot : skipBlanks (.ofText s.text 2) = .done () (.ofText s.text 3) := by cbv
  have hcloser : skipBlanks (.ofText s.text 4) = .done () (.ofText s.text 5) := by cbv
  constructor
  · obtain ⟨⟨fault, stop, hs, _⟩ | ⟨q, hs, hagree, _⟩, _⟩ := s.scan_agrees_with_readNext 0
    · cases hstart.symm.trans hs
    · cases hstart.symm.trans hs
      exact hagree (by decide) (by decide)
  · obtain ⟨⟨fault, stop, hs, _⟩ | ⟨q, hs, _, hpassed⟩, _⟩ := s.scan_agrees_with_readNext 2
    · cases hdot.symm.trans hs
    · cases hdot.symm.trans hs
      exact (hpassed (by decide)).1 _ hcloser (by decide)

end Session

/-! ## What a scan finds -/

variable {known : CharacterNames}

/-- Whatever a scan finds, in any text, is a form with a layout. -/
theorem exists_laid_of_scan {text : Text} {pos : Nat} {s : Span} {next : Cursor}
    (h : scan (.ofText text pos) = .done (some s) next) :
    ∃ l, Laid text l ∧ s = l.span ∧ next = .ofText text l.stop ∧ pos ≤ l.start := by
  have hexpression : ∀ {q x mid}, pos ≤ q → lex (.ofText text q) = .done (some x) mid →
      scanExpression (some x) mid = .done (some s) next →
      ∃ l, Laid text l ∧ s = l.span ∧ next = .ofText text l.stop ∧ pos ≤ l.start := by
    intro q x mid hq hx hs
    obtain ⟨hgap, hlex, hmid⟩ := exists_lexemeAt hx
    unfold scanExpression at hs
    dsimp only at hs
    split at hs
    · cases hs
    · obtain ⟨p, after, hp, hdone⟩ := Outcome.bind_eq_done.1 hs
      rw [hmid] at hp
      obtain ⟨l, hl, _, hstart, rfl⟩ := exists_laid hlex hp
      cases hdone
      refine ⟨l, hl, ?_, rfl, ?_⟩
      · rw [← hstart]
        rfl
      · rw [hstart]
        exact Nat.le_trans hq hgap.le
  obtain ⟨x, mid, hx, hs⟩ := Outcome.bind_eq_done.1 h
  cases x with
  | none => exact absurd hs (scanExpression_none _ _ _)
  | some x =>
    split at hs
    · -- A dot was passed over; the expression is looked for behind it.
      obtain ⟨y, mid', hy, hs⟩ := Outcome.bind_eq_done.1 hs
      obtain ⟨hgap, hlex, hmid⟩ := exists_lexemeAt hx
      rw [hmid] at hy
      cases y with
      | none => exact absurd hs (scanExpression_none _ _ _)
      | some y =>
        have hle := hgap.le
        have hlt := hlex.bounds.1
        exact hexpression (by omega) hy hs
    · exact hexpression (Nat.le_refl pos) hx hs

end Reading

/-! ## The loop over children -/

/-- One expression is looked for after the other, each where the last one ended, until none
is found by the limit or the text is refused. The first number counts the scans. -/
inductive ScanLoop [CharacterNames] (text : Text) (limit : Int) :
    Nat → Nat → Except Fault (List Span) → Prop
  | stop {pos : Nat} : ((Session.ofText text).scan pos (some limit)).1 = .ok none →
      ScanLoop text limit 1 pos (.ok [])
  | fail {pos : Nat} {fault : Fault} :
      ((Session.ofText text).scan pos (some limit)).1 = .error fault →
      ScanLoop text limit 1 pos (.error fault)
  | next {count pos : Nat} {s : Span} {result : Except Fault (List Span)} :
      ((Session.ofText text).scan pos (some limit)).1 = .ok (some s) →
      ScanLoop text limit count s.stop.toNat result →
      ScanLoop text limit (count + 1) pos (result.map (s :: ·))

section Loop

variable {known : CharacterNames}
variable {text : Text} {pos : Nat} {limit : Int} {s : Span}

/-- An expression that a scan with a limit finds has a layout, and it ends by the limit. -/
theorem exists_laid_of_scan_limit
    (h : ((Session.ofText text).scan pos (some limit)).1 = .ok (some s)) :
    ∃ l, Laid text l ∧ s = l.span ∧ pos ≤ l.start ∧ (l.stop : Int) ≤ limit := by
  rw [Session.scan_limit, Session.scan_eq] at h
  cases hscan : Reading.scan (.ofText (Session.ofText text).text pos) with
  | truncated stop | failed fault stop =>
    rw [hscan] at h
    cases h
  | done found next =>
    rw [hscan] at h
    cases found with
    | none => cases h
    | some e =>
      obtain ⟨l, hl, rfl, _, hle⟩ := exists_laid_of_scan hscan
      simp only [Outcome.answer, Except.ok.injEq, Option.ite_none_right_eq_some, Option.some.injEq] at h
      obtain ⟨hlimit, rfl⟩ := h
      exact ⟨l, hl, rfl, hle, hlimit⟩

/-- The spans of expressions follow from one scan and the spans behind what it finds. -/
theorem expressionSpans_eq (text : Text) (pos : Nat) (limit : Int) :
    expressionSpans (.ofText text pos) limit =
      match ((Session.ofText text).scan pos (some limit)).1 with
      | .ok (some s) => (expressionSpans (.ofText text s.stop.toNat) limit).map (s :: ·)
      | .ok none => .ok []
      | .error fault => .error fault := by
  have htext : (Session.ofText text).text = text := rfl
  rw [Session.scan_limit, Session.scan_eq, expressionSpans.eq_def, htext]
  split
  · rename_i e next hscan
    obtain ⟨l, _, rfl, rfl, _⟩ := exists_laid_of_scan hscan
    rw [hscan]
    by_cases hlimit : l.span.stop ≤ limit
    · simp only [Outcome.answer, if_pos hlimit]
      have hstop : l.span.stop.toNat = l.stop := rfl
      rw [hstop]
      cases expressionSpans (.ofText text l.stop) limit <;> rfl
    · simp only [Outcome.answer, if_neg hlimit]
  all_goals
    rename_i hscan
    rw [hscan]
    rfl

/-- The loop ends, because every expression that is found takes up some of the text. -/
theorem scanLoop_expressionSpans (text : Text) (pos : Nat) (limit : Int) :
    ∃ count ≤ text.length - pos + 1,
      ScanLoop text limit count pos (expressionSpans (.ofText text pos) limit) := by
  rw [expressionSpans_eq]
  cases hscan : ((Session.ofText text).scan pos (some limit)).1 with
  | error fault => exact ⟨1, by omega, .fail hscan⟩
  | ok found =>
    cases found with
    | none => exact ⟨1, by omega, .stop hscan⟩
    | some s =>
      obtain ⟨l, hl, rfl, hle, _⟩ := exists_laid_of_scan_limit hscan
      have hbounds := hl.bounds
      obtain ⟨count, hcount, hloop⟩ := scanLoop_expressionSpans text l.stop limit
      exact ⟨count + 1, by omega, .next hscan hloop⟩
termination_by text.length - pos
decreasing_by omega

/-- The spans that the loop gives are those of forms in a row, and each ends by the limit. -/
theorem ScanLoop.exists_row {count : Nat} {result : Except Fault (List Span)}
    (h : ScanLoop text limit count pos result) : ∀ spans, result = .ok spans →
      ∃ ls e, (∀ l ∈ ls, Laid text l ∧ (l.stop : Int) ≤ limit) ∧ Row pos ls e ∧
        spans = ls.map Layout.span := by
  induction h with
  | @stop pos _ =>
    rintro _ ⟨⟩
    exact ⟨[], pos, nofun, Nat.le_refl pos, rfl⟩
  | fail _ => exact nofun
  | @next count pos s result hscan _ ih =>
    obtain ⟨l, hl, rfl, hle, hlimit⟩ := exists_laid_of_scan_limit hscan
    intro spans hspans
    cases result with
    | error fault => cases hspans
    | ok rest =>
      cases hspans
      obtain ⟨ls, e, hall, hrow, rfl⟩ := ih rest rfl
      refine ⟨l :: ls, e, ?_, ⟨hle, hrow⟩, rfl⟩
      intro l' hl'
      rcases List.mem_cons.1 hl' with rfl | hl'
      · exact ⟨hl, hlimit⟩
      · exact hall l' hl'

end Loop

/-! ## Children of any span -/

/-- Where the width of an opening bracket is found, a bracket is written. -/
theorem exists_opening_of_openerWidth? {t : Text} {width : Nat} (h : openerWidth? t = some width) :
    ∃ b rest, b ≠ Bracket.propertied ∧ b.opening ++ rest = t := by
  have hopens : ∀ {b : Bracket}, b ≠ .propertied → t.startsWith b.opening = true →
      ∃ b rest, b ≠ Bracket.propertied ∧ b.opening ++ rest = t := by
    intro b hb hs
    obtain ⟨rest, hrest⟩ := List.isPrefixOf_iff_prefix.1 hs
    exact ⟨b, rest, hb, hrest⟩
  unfold openerWidth? at h
  split at h
  · rename_i hs
    exact hopens (b := .vector .record) nofun hs
  · split at h
    · rename_i hs
      exact hopens (b := .vector .bytecode) nofun hs
    · split at h
      · rename_i hs
        exact hopens (b := .list) nofun hs
      · split at h
        · rename_i hs
          exact hopens (b := .vector .plain) nofun hs
        · cases h

section

variable {known : CharacterNames}

theorem childSpans_of_opener {text : Text} {start width : Nat}
    (h : openerWidth? (text.drop start) = some width) (stop : Int) :
    childSpans text ⟨start, stop⟩ = expressionSpans (.ofText text (start + width)) (stop - 1) := by
  obtain ⟨b, rest, hb, hrest⟩ := exists_opening_of_openerWidth? h
  have hmark := (openerWidth?_opening rest hb).1
  rw [hrest] at hmark
  exact childSpans_of_bracket hmark h

/-- The children between brackets are forms in a row, each of which ends before the last
character of the span. -/
theorem exists_row_of_opener {text : Text} {start width : Nat} {stop : Int} {spans : List Span}
    (hw : openerWidth? (text.drop start) = some width)
    (h : childSpans text ⟨start, stop⟩ = .ok spans) :
    ∃ ls e, (∀ l ∈ ls, Laid text l ∧ (l.stop : Int) ≤ stop - 1) ∧ Row (start + width) ls e ∧
      spans = ls.map Layout.span := by
  rw [childSpans_of_opener hw] at h
  obtain ⟨count, _, hloop⟩ := scanLoop_expressionSpans text (start + width) (stop - 1)
  exact hloop.exists_row spans h

/-- The spans of a row of layouts that are not empty ascend and do not overlap. -/
theorem Reading.Row.spans_ascend {q e : Nat} {ls : List Layout} (h : Row q ls e)
    (hlt : ∀ l ∈ ls, l.start < l.stop) :
    (∀ s ∈ ls.map Layout.span, s.start < s.stop) ∧
      (ls.map Layout.span).Pairwise fun s t => s.start < t.start ∧ s.stop ≤ t.start := by
  constructor
  · intro s hs
    obtain ⟨l, hl, rfl⟩ := List.mem_map.1 hs
    exact Int.ofNat_lt.2 (hlt l hl)
  · refine List.pairwise_map.2 ?_
    have hpairs := h.pairwise fun l hl => Nat.le_of_lt (hlt l hl)
    refine hpairs.imp_of_mem fun {l l'} hl _ hle => ?_
    have hl := hlt l hl
    simp only [Layout.span, Span.ofNat]
    omega

/-- The child spans of any span, of a form or not, are those of layouts in a row. -/
theorem exists_row_of_childSpans {text : Text} {start : Nat} {stop : Int} {spans : List Span}
    (h : childSpans text ⟨start, stop⟩ = .ok spans) :
    ∃ ls e, (∀ l ∈ ls, l.start < l.stop) ∧ Row start ls e ∧ spans = ls.map Layout.span := by
  cases hm : shorthandAt? (text.drop start) with
  | none =>
    cases hw : openerWidth? (text.drop start) with
    | none =>
      simp only [childSpans, Int.toNat_natCast, hm, hw] at h
      cases h
      exact ⟨[], start, nofun, Nat.le_refl start, rfl⟩
    | some width =>
      obtain ⟨ls, e, hall, hrow, rfl⟩ := exists_row_of_opener hw h
      refine ⟨ls, e, fun l hl => (hall l hl).1.bounds.1, ?_, rfl⟩
      exact hrow.mono (Nat.le_add_right start width) (Nat.le_refl e)
  | some m =>
    have hmark : start < start + m.mark.length := by
      cases m <;> exact Nat.lt_add_of_pos_right (by decide)
    have hhead : ∃ ls e, (∀ l ∈ ls, l.start < l.stop) ∧ Row start ls e ∧
        [Span.ofNat start (start + m.mark.length)] = ls.map Layout.span := by
      refine ⟨[.mark m start], start + m.mark.length, ?_, ⟨Nat.le_refl start, Nat.le_refl _⟩, rfl⟩
      intro l hl
      cases List.mem_singleton.1 hl
      exact hmark
    simp only [childSpans, Int.toNat_natCast, hm] at h
    split at h
    · rename_i inner next hscan
      obtain ⟨l, hl, rfl, _, hle⟩ := exists_laid_of_scan hscan
      split at h
      · cases h
        refine ⟨[.mark m start, l], l.stop, ?_, ⟨Nat.le_refl start, hle, Nat.le_refl l.stop⟩, rfl⟩
        intro k hk
        rcases List.mem_cons.1 hk with rfl | hk
        · exact hmark
        · cases List.mem_singleton.1 hk
          exact hl.bounds.1
      · cases h
        exact hhead
    · cases h
      exact hhead
    · cases h
      exact hhead
    · cases h

/-- Child spans can be asked for of any span of any text. The loop between brackets ends after
no more scans than there are characters left, and one; the spans that come back are not empty,
ascend and do not overlap; and between brackets they lie behind the opening bracket and end
before the last character of the span. -/
theorem childSpans_safe (text : Text) (start : Nat) (stop : Int) :
    (∀ width, openerWidth? (text.drop start) = some width →
      ∃ count ≤ text.length - (start + width) + 1,
        ScanLoop text (stop - 1) count (start + width) (childSpans text ⟨start, stop⟩)) ∧
    ∀ spans, childSpans text ⟨start, stop⟩ = .ok spans →
      (∀ s ∈ spans, s.start < s.stop) ∧
      (spans.Pairwise fun s t => s.start < t.start ∧ s.stop ≤ t.start) ∧
      ∀ width, openerWidth? (text.drop start) = some width →
        ∀ s ∈ spans, ((start + width : Nat) : Int) ≤ s.start ∧ s.stop ≤ stop - 1 := by
  refine ⟨fun width hw => ?_, fun spans hspans => ?_⟩
  · rw [childSpans_of_opener hw]
    exact scanLoop_expressionSpans text (start + width) (stop - 1)
  · obtain ⟨ls, e, hlt, hrow, rfl⟩ := exists_row_of_childSpans hspans
    obtain ⟨hnonempty, hascend⟩ := hrow.spans_ascend hlt
    refine ⟨hnonempty, hascend, fun width hw s hs => ?_⟩
    obtain ⟨ks, e', hall, hrow', heq⟩ := exists_row_of_opener hw hspans
    rw [heq] at hs
    obtain ⟨k, hk, rfl⟩ := List.mem_map.1 hs
    have hle := (hrow'.bounds (fun k hk => (hall k hk).1.start_le_stop) hk).1
    exact ⟨Int.ofNat_le.2 hle, (hall k hk).2⟩

end

open SomeNames

theorem childSpans_safe_stray_closer :
    let text := Text.of "(a . b c] d"
    ∃ spans, childSpans text ⟨0, 9⟩ = .ok spans ∧ spans = [.ofNat 1 2, .ofNat 5 6, .ofNat 7 8] ∧
      (∃ count ≤ 11, ScanLoop text 8 count 1 (.ok spans)) ∧ (∀ s ∈ spans, 1 ≤ s.start ∧ s.stop ≤ 8) ∧
      spans.Pairwise fun s t => s.start < t.start ∧ s.stop ≤ t.start := by
  intro text
  have hspans : childSpans text ⟨(0 : Nat), 9⟩ = .ok [.ofNat 1 2, .ofNat 5 6, .ofNat 7 8] := by
    decide +kernel
  have hwidth : openerWidth? (text.drop 0) = some 1 := by decide +kernel
  obtain ⟨hloop, hsafe⟩ := childSpans_safe text 0 9
  obtain ⟨_, hascend, hinside⟩ := hsafe _ hspans
  obtain ⟨count, hcount, hloop⟩ := hloop 1 hwidth
  rw [hspans] at hloop
  exact ⟨_, hspans, rfl, ⟨count, hcount, hloop⟩, hinside 1 hwidth, hascend⟩

end LispXref
