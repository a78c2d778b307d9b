-- Finding the span of one expression without keeping its form. Scanning skips a
-- lone dot, so the items of a dotted list and its tail are found alike, and it
-- finds nothing before a closing delimiter or at the end of the text.
import LispXref.Reading.TopLevel

namespace LispXref.Reading

variable [CharacterNames]

/-- The span of the expression that starts with a lexeme. -/
def scanExpression (x : Option Lexed) (next : Cursor) : Outcome (Option Span) :=
  match x with
  | none => .done none next
  | some x =>
    match x.lexeme with
    | .closer c => .done none ⟨x.start, c :: next.rest⟩
    | _ => (readForm x next).bind fun _ after => .done (some (.ofNat x.start after.pos)) after

/-- The span of the single expression at or after a place. -/
def scan (cur : Cursor) : Outcome (Option Span) :=
  (lex cur).bind fun x next =>
    match x with
    | some ⟨_, .dot⟩ => (lex next).bind scanExpression
    | _ => scanExpression x next

theorem scanExpression_from {x : Lexed} {next after : Cursor} {s : Span}
    (h : scanExpression (some x) next = .done (some s) after) : next.Reaches after := by
  unfold scanExpression at h
  dsimp only at h
  split at h
  · cases h
  · obtain ⟨p, mid, hp, hn⟩ := Outcome.bind_eq_done.1 h
    cases hn
    exact readForm_from x next p _ hp

theorem scanExpression_none (next after : Cursor) (s : Span) :
    scanExpression none next ≠ .done (some s) after := nofun

/-- An expression has at least one character. -/
theorem scan_advances {cur next : Cursor} {s : Span} (h : scan cur = .done (some s) next) :
    cur.Advances next := by
  obtain ⟨x, mid, hx, hs⟩ := Outcome.bind_eq_done.1 h
  cases x with
  | none => exact absurd hs (scanExpression_none _ _ _)
  | some x =>
    have ha := lex_advances hx
    split at hs
    · obtain ⟨y, mid', hy, hs⟩ := Outcome.bind_eq_done.1 hs
      cases y with
      | none => exact absurd hs (scanExpression_none _ _ _)
      | some y =>
        exact ha.trans_reaches ((lex_advances hy).reaches.trans (scanExpression_from hs))
    · exact ha.trans_reaches (scanExpression_from hs)

end LispXref.Reading
