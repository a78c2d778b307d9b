-- A reader at work on the text of a file: where it stands, and the table of the symbol
-- tokens it has entered. Each step gives an answer and the reader afterwards. A form is read
-- with a table of its own; after a fault, or where the text ran out, what was entered of the
-- unfinished form is left in the table.
import LispXref.Reading.Recording
import LispXref.Reading.TopLevel

namespace LispXref.Reading

/-- A reader of the file at a path. Its offset may lie behind the end of the text. -/
structure Reader where
  text : Text
  path : Text
  pos : Nat
  table : Table
  deriving DecidableEq

/-- Skips what may stand before an expression, and also one lone dot. -/
def skipToExpression (cur : Cursor) : Outcome Unit :=
  (skipBlanks cur).bind fun _ q =>
    match q.rest with
    | [] => .done () q
    | c :: rest =>
      if c = '.' ∧ standsAlone rest then skipBlanks ⟨q.pos + 1, rest⟩ else .done () q

theorem skipToExpression_from (cur : Cursor) : (skipToExpression cur).From cur := by
  intro _ next h
  obtain ⟨_, q, hq, hnext⟩ := Outcome.bind_eq_done.1 h
  have hr := skipBlanks_from cur () q hq
  split at hnext
  · cases hnext
    exact hr
  · rename_i c rest hrest
    split at hnext
    · exact (hr.trans (Cursor.reaches_of_rest [c] hrest)).trans (skipBlanks_from _ _ next hnext)
    · cases hnext
      exact hr

/-- An expression starts with neither a blank nor a comment. -/
theorem skipToExpression_stop {cur next : Cursor} (h : skipToExpression cur = .done () next)
    {c : CodePoint} {rest : Text} (hrest : next.rest = c :: rest) : isBlank c = false ∧ c ≠ ';' := by
  obtain ⟨_, q, hq, hnext⟩ := Outcome.bind_eq_done.1 h
  split at hnext
  · cases hnext
    exact skipBlanks_stop cur _ hq c rest hrest
  · split at hnext
    · exact skipBlanks_stop _ next hnext c rest hrest
    · cases hnext
      exact skipBlanks_stop cur _ hq c rest hrest

variable [CharacterNames]

namespace Reader

/-- A reader at the start of a text. -/
def ofText (text path : Text) : Reader := ⟨text, path, 0, []⟩

/-- The same reader at another offset. -/
def seek (r : Reader) (pos : Nat) : Reader := { r with pos }

/-- Lets go of the text and of what is in the table. -/
def close (r : Reader) : Reader := ⟨[], r.path, 0, []⟩

/-- The next top-level form, or nothing. When the text ran out the reader stands at its
end. -/
def readNext (r : Reader) : Except FileFault (Option Positioned) × Reader :=
  match skipBlanks (.ofText r.text r.pos) with
  | .truncated _ => (.ok none, r.seek r.text.length)
  | .failed fault stop => (.error ⟨r.path, fault⟩, r.seek stop)
  | .done () q =>
    match q.rest with
    | [] => (.ok none, r.seek q.pos)
    | c :: rest =>
      if isCloser c then (.error ⟨r.path, .malformed q.pos (.unexpectedCloser c)⟩, r.seek q.pos)
      else
        -- Whatever the table holds goes before a form is read, not after.
        let recorded := recordAt q.pos c rest []
        match recorded.outcome with
        | .done f next =>
          (.ok (some (.ofPiece q.pos next.pos ⟨f, recorded.table⟩)), ⟨r.text, r.path, next.pos, []⟩)
        | .truncated _ => (.ok none, ⟨r.text, r.path, r.text.length, recorded.table⟩)
        | .failed fault stop => (.error ⟨r.path, fault⟩, ⟨r.text, r.path, stop, recorded.table⟩)

/-- The span of the expression at or after an offset, if it ends by the limit. Afterwards
the table is what it was. -/
def scan (r : Reader) (pos : Nat) (limit : Option Int) : Except FileFault (Option Span) × Reader :=
  match skipToExpression (.ofText r.text pos) with
  | .truncated stop => (.ok none, r.seek stop)
  | .failed fault stop => (.error ⟨r.path, fault⟩, r.seek stop)
  | .done () q =>
    match q.rest with
    | [] => (.ok none, r.seek q.pos)
    | c :: rest =>
      if isCloser c then (.ok none, r.seek q.pos)
      else match (recordAt q.pos c rest []).outcome with
        | .done _ next =>
          (.ok ((some (.ofNat q.pos next.pos)).filter fun e => limit.all (e.stop ≤ ·)),
            r.seek next.pos)
        | .truncated stop => (.ok none, r.seek stop)
        | .failed fault stop => (.error ⟨r.path, fault⟩, r.seek stop)

/-! ## Progress -/

/-- A form that was read has at least one character, all of them in the text. -/
theorem readNext_advances {r next : Reader} {p : Positioned}
    (h : r.readNext = (.ok (some p), next)) :
    next.text = r.text ∧ r.pos < next.pos ∧ next.pos ≤ r.text.length := by
  unfold readNext at h
  split at h
  · simp at h
  · simp at h
  · rename_i q hq
    split at h
    · simp at h
    · rename_i c rest hrest
      split at h
      · simp at h
      · obtain ⟨hb, hs⟩ := skipBlanks_stop _ q hq c rest hrest
        have hform := recordAt_after q.pos rest [] hb hs
        dsimp only at h
        split at h
        · rename_i f after hf
          have hadvances := hform f after hf
          rw [← hrest] at hadvances
          simp only [Prod.mk.injEq] at h
          obtain ⟨_, rfl⟩ := h
          exact ⟨rfl, ((skipBlanks_from _ _ q hq).trans_advances hadvances).bounds⟩
        · simp at h
        · simp at h

/-- An expression that was found has at least one character, all of them in the text. -/
theorem scan_advances {r next : Reader} {pos : Nat} {limit : Option Int} {s : Span}
    (h : r.scan pos limit = (.ok (some s), next)) :
    next.text = r.text ∧ pos < s.stop.toNat ∧ s.stop.toNat ≤ r.text.length := by
  unfold scan at h
  split at h
  · simp at h
  · simp at h
  · rename_i q hq
    split at h
    · simp at h
    · rename_i c rest hrest
      split at h
      · simp at h
      · obtain ⟨hb, hs⟩ := skipToExpression_stop hq hrest
        have hform := recordAt_after q.pos rest [] hb hs
        split at h
        · rename_i f after hf
          have hadvances := hform f after hf
          rw [← hrest] at hadvances
          simp only [Prod.mk.injEq, Except.ok.injEq, Option.filter_eq_some_iff, Option.some.injEq] at h
          obtain ⟨⟨rfl, _⟩, rfl⟩ := h
          exact ⟨rfl, ((skipToExpression_from _ _ q hq).trans_advances hadvances).bounds⟩
        · simp at h
        · simp at h

/-! ## Whole texts -/

/-- All complete top-level forms from where the reader stands. -/
def readOn (r : Reader) : Except FileFault (List Positioned) × Reader :=
  match _h : r.readNext with
  | (.ok (some p), next) =>
    let others := next.readOn
    (others.1.map (p :: ·), others.2)
  | (.ok none, next) => (.ok [], next)
  | (.error f, next) => (.error f, next)
termination_by r.text.length - r.pos
decreasing_by
  obtain ⟨htext, hlt, hle⟩ := readNext_advances _h
  rw [htext]
  omega

/-- All complete top-level forms, from the start of the text. -/
def readAll (r : Reader) : Except FileFault (List Positioned) × Reader := (r.seek 0).readOn

end Reader

end LispXref.Reading
