-- The spans of a compound's children agree with what was read. They are found by
-- scanning the text again, and the layout says where each part stands; main
-- statement: the scan finds every part, and nothing else.
import LispXref.ChildSpans
import LispXref.Proofs.Cut
import LispXref.Reading.SomeNames
import LispXref.Text.Slice

namespace LispXref

open Reading

namespace Reading

/-! ## Scanning -/

variable {known : CharacterNames}

/-- Scanning finds the next form. -/
theorem Reads.scan {text : Text} {q s e : Nat} {p : Piece} (h : Reads text s p e)
    (hg : Gap text q s) : scan (.ofText text q) = .done (some (.ofNat s e)) (.ofText text e) := by
  obtain ⟨x, n, hx, hp⟩ := h
  obtain ⟨hdot, hcloser⟩ := begins_of_readForm hp
  unfold Reading.scan
  rw [hg.lex_eq, Outcome.bind_of_done hx]
  cases x with
  | closer c => exact absurd rfl (hcloser c)
  | dot => exact absurd rfl hdot
  | atom f | shorthand m | opener b =>
    simp only [scanExpression]
    rw [Outcome.bind_of_done hp]
    rfl

/-- Scanning passes over a dot. -/
theorem Reads.scan_dot {text : Text} {q r d s e : Nat} {p : Piece} (h : Reads text s p e)
    (hg : Gap text q r) (hd : LexemeAt text r .dot d) (hs : Gap text d s) :
    Reading.scan (.ofText text q) = .done (some (.ofNat s e)) (.ofText text e) := by
  obtain ⟨x, n, hx, hp⟩ := h
  obtain ⟨_, hcloser⟩ := begins_of_readForm hp
  unfold Reading.scan
  rw [hg.lex_eq, Outcome.bind_of_done hd]
  simp only
  rw [hs.lex_eq, Outcome.bind_of_done hx]
  cases x with
  | closer c => exact absurd rfl (hcloser c)
  | dot | atom f | shorthand m | opener b =>
    simp only [scanExpression]
    rw [Outcome.bind_of_done hp]
    rfl

/-- Scanning finds nothing before a closing delimiter. -/
theorem LexemeAt.scan_closer {text : Text} {q r e : Nat} {c : CodePoint}
    (h : LexemeAt text r (.closer c) e) (hg : Gap text q r) :
    ∃ next, scan (.ofText text q) = .done none next := by
  refine ⟨⟨r, c :: text.drop e⟩, ?_⟩
  unfold scan
  rw [hg.lex_eq, Outcome.bind_of_done h]
  rfl

end Reading

section

variable {known : CharacterNames}

theorem expressionSpans_some {cur next : Cursor} {s : Span} {limit : Int} {spans : List Span}
    (h : scan cur = .done (some s) next) (hs : s.stop ≤ limit)
    (hr : expressionSpans next limit = .ok spans) : expressionSpans cur limit = .ok (s :: spans) := by
  rw [expressionSpans.eq_def]
  split
  · rename_i s' next' h'
    rw [h] at h'
    cases h'
    rw [if_pos hs, hr]
  · rename_i h'
    rw [h] at h'
    cases h'
  · rename_i h'
    rw [h] at h'
    cases h'
  · rename_i h'
    rw [h] at h'
    cases h'

theorem expressionSpans_none {cur next : Cursor} (h : scan cur = .done none next) (limit : Int) :
    expressionSpans cur limit = .ok [] := by
  rw [expressionSpans.eq_def]
  split
  · rename_i h'
    rw [h] at h'
    cases h'
  · rfl
  · rfl
  · rename_i h'
    rw [h] at h'
    cases h'

/-- Between brackets, the scan finds the items and the tail. -/
theorem Reading.Inside.expressionSpans {text : Text} {b : Bracket} {q e : Nat} {items : List Layout}
    {tail : Option Layout} (h : Inside text b q items tail e)
    (hall : ∀ l ∈ items ++ tail.toList, Laid text l) :
    expressionSpans (.ofText text q) (e - 1) = .ok ((items ++ tail.toList).map Layout.span) := by
  induction h with
  | close hg hx =>
    obtain ⟨next, hscan⟩ := hx.scan_closer hg
    exact expressionSpans_none hscan _
  | @tail q r d t e l _ hg hd hg' hstop hx =>
    have hl := hall l (by simp)
    have hle : l.stop < e := Nat.lt_of_le_of_lt hstop.le hx.bounds.1
    obtain ⟨next, hend⟩ := hx.scan_closer hstop
    refine expressionSpans_some (hl.reads.scan_dot hg hd hg') ?_ (expressionSpans_none hend _)
    show (l.stop : Int) ≤ e - 1
    omega
  | @item q e l ls tail hg hin ih =>
    have hl := hall l (by simp)
    have hrest : ∀ l' ∈ ls ++ tail.toList, Laid text l' := fun l' hl' => hall l' (by simp [hl'])
    have hlt := hin.lt hrest
    refine expressionSpans_some (hl.reads.scan hg) ?_ (ih hrest)
    show (l.stop : Int) ≤ e - 1
    omega

/-! ## Marks and brackets -/

/-- A mark is found where it is written. -/
theorem shorthandAt?_mark {m : Shorthand} {rest : Text}
    (h : m = .comma → rest.head? ≠ some (CodePoint.ofChar '@')) :
    shorthandAt? (m.mark ++ rest) = some m := by
  cases m with
  | comma =>
    cases rest with
    | nil => rfl
    | cons c rest =>
      have hc : (CodePoint.ofChar '@' == c) = false := by
        rw [beq_eq_false_iff_ne]
        intro hc
        exact h rfl (by rw [← hc]; rfl)
      -- The only other mark that begins with a comma is the one that goes on with `@`.
      show (match CodePoint.ofChar '@' == c && true with
        | true => some Shorthand.commaAt
        | false => some Shorthand.comma) = some Shorthand.comma
      rw [hc]
      rfl
  | _ => rfl

/-- A bracket is no mark, and its width is found where it is written. -/
theorem openerWidth?_opening {b : Bracket} (rest : Text) (h : b ≠ .propertied) :
    shorthandAt? (b.opening ++ rest) = none ∧
      openerWidth? (b.opening ++ rest) = some b.opening.length := by
  rcases b with _ | ⟨_ | _ | _⟩ | _
  · exact ⟨rfl, rfl⟩
  · exact ⟨rfl, rfl⟩
  · exact ⟨rfl, rfl⟩
  · exact ⟨rfl, rfl⟩
  · exact absurd rfl h

theorem childSpans_of_mark {text : Text} {s : Nat} {e : Int} {m : Shorthand} {inner : Span}
    {next : Cursor} (hm : shorthandAt? (text.drop s) = some m)
    (hs : scan (.ofText text (s + m.mark.length)) = .done (some inner) next) (he : inner.stop ≤ e) :
    childSpans text ⟨s, e⟩ = .ok [.ofNat s (s + m.mark.length), inner] := by
  unfold childSpans
  simp only [Int.toNat_natCast, hm, hs, if_pos he]

theorem childSpans_of_bracket [CharacterNames] {text : Text} {s width : Nat} {e : Int}
    (hm : shorthandAt? (text.drop s) = none) (hw : openerWidth? (text.drop s) = some width) :
    childSpans text ⟨s, e⟩ = expressionSpans (.ofText text (s + width)) (e - 1) := by
  unfold childSpans
  simp only [Int.toNat_natCast, hm, hw]

/-! ## Compounds -/

/-- A compound is written with a mark and one form, or with brackets around its
parts. Either way, the scan finds its parts. -/
theorem Reading.Laid.compound {text : Text} {l : Layout} (h : Laid text l)
    (hc : l.form.isCompound = true) :
    childSpans text l.span = .ok (l.parts.map Layout.span) ∧
      ((∃ m inner, shorthandAt? (text.drop l.start) = some m ∧
        text.drop l.start = m.mark ++ text.drop (l.start + m.mark.length) ∧
        l.parts = [.mark m l.start, inner] ∧ Laid text inner) ∨
      shorthandAt? (text.drop l.start) = none ∧ ∀ l' ∈ l.parts, Laid text l') := by
  cases h with
  | @atom s e f hx =>
    have hf : (Piece.ofAtom s e f).form.isCompound = true := hc
    rw [Piece.form_ofAtom, hx.spelled] at hf
    cases hf
  | @shorthand s q m inner hx hg hi =>
    obtain ⟨ht, hq, hat⟩ := hx.spelled
    simp only [Cursor.ofText] at ht hq hat
    have hmark : shorthandAt? (text.drop s) = some m := by
      rw [ht]
      exact shorthandAt?_mark hat
    have hscan := hi.reads.scan hg
    rw [hq] at hscan ht
    refine ⟨?_, .inl ⟨m, inner, hmark, ht, rfl, hi⟩⟩
    exact childSpans_of_mark hmark hscan (Int.le_refl _)
  | @bracket s q e b items tail p hx hin hfirst hall hb =>
    obtain ⟨ht, hq⟩ := hx.spelled
    simp only [Cursor.ofText] at ht hq
    have hne : b ≠ .propertied := by
      rintro rfl
      have hatom := Bracket.isCompound_of_propertied (Bracket.build_eq_done.1 hb).1
      rw [show p.form.isCompound = true from hc] at hatom
      cases hatom
    have hparts : b.parts items tail = items ++ tail.toList := by
      cases b with
      | propertied => exact absurd rfl hne
      | _ => rfl
    obtain ⟨hmark, hwidth⟩ := openerWidth?_opening (text.drop q) hne
    rw [← ht] at hmark hwidth
    refine ⟨?_, .inr ⟨hmark, fun l' hl' => hall l' (hparts ▸ hl')⟩⟩
    have hspans := childSpans_of_bracket (e := e) hmark hwidth
    rw [← hq, hin.expressionSpans hall, ← hparts] at hspans
    exact hspans

theorem slice_of_drop {text u rest : Text} {s : Nat} (h : text.drop s = u ++ rest)
    (hs : s ≤ text.length) : slice text s ↑(s + u.length) = u := by
  have hlen := congrArg List.length h
  simp only [List.length_drop, List.length_append] at hlen
  rw [slice_natCast text hs (by omega), List.drop_take, h, Nat.add_sub_cancel_left, List.take_left]

/-- The parts of a compound have layouts. The only exception is the mark of a
shorthand, which is the first part. -/
theorem Reading.Laid.part {text : Text} {l l' : Layout} {i : Nat} (h : Laid text l)
    (hc : l.form.isCompound = true) (hi : l.parts[i]? = some l') :
    (i = 0 ∧ ∃ m, shorthandAt? (text.drop l.start) = some m ∧ l' = .mark m l.start ∧
      slice text l'.start l'.stop = m.mark) ∨
    Laid text l' ∧ (i = 0 → shorthandAt? (text.drop l.start) = none) := by
  obtain ⟨_, ⟨m, inner, hm, ht, hparts, hinner⟩ | ⟨hm, hall⟩⟩ := h.compound hc
  · rw [hparts] at hi
    match i, hi with
    | 0, hi =>
      cases hi
      have hstart : l.start ≤ text.length := Nat.le_trans h.start_le_stop h.bounds.2
      exact .inl ⟨rfl, m, hm, rfl, slice_of_drop ht hstart⟩
    | 1, hi =>
      cases hi
      exact .inr ⟨hinner, nofun⟩
  · exact .inr ⟨hall l' (List.mem_of_getElem? hi), fun _ => hm⟩

/-- An element of a compound and its child span belong to one part. -/
theorem Reading.Laid.exists_part {text : Text} {l : Layout} {i : Nat} {g : Form} {s : Span}
    (h : Laid text l) (hg : l.form.elements[i]? = some g)
    (hs : (l.parts.map Layout.span)[i]? = some s) :
    ∃ l', l.parts[i]? = some l' ∧ l'.form = g ∧ l'.span = s := by
  rw [← h.parts_form, List.getElem?_map, Option.map_eq_some_iff] at hg
  rw [List.getElem?_map, Option.map_eq_some_iff] at hs
  obtain ⟨l', hl', hform⟩ := hg
  obtain ⟨l'', hl'', hspan⟩ := hs
  rw [hl'] at hl''
  cases hl''
  exact ⟨l', hl', hform, hspan⟩

/-! ## Located forms -/

/-- The form that starts exactly at a place, with no blank before it. -/
def Reading.readFormAt [CharacterNames] (cur : Cursor) : Outcome Piece :=
  match cur.rest with
  | [] => .truncated cur.pos
  | c :: rest => (lexemeAt cur.pos c rest).bind fun x next => readForm ⟨cur.pos, x⟩ next

/-- Reading skips blanks and then reads the form that starts there. -/
theorem Reading.nextForm_eq (cur : Cursor) :
    nextForm cur = (skipBlanks cur).bind fun _ mid =>
      if mid.rest = [] then .done none mid
      else (readFormAt mid).bind fun p after => .done (some (.ofPiece mid.pos after.pos p)) after := by
  unfold nextForm lex
  cases skipBlanks cur with
  | truncated stop => rfl
  | failed fault stop => rfl
  | done u mid =>
    obtain ⟨pos, rest⟩ := mid
    cases rest with
    | nil => rfl
    | cons c rest =>
      simp only [Outcome.bind, readFormAt, List.cons_ne_nil, if_false]
      cases lexemeAt pos c rest <;> rfl

/-- The reader gets the form from the span: started where the span starts, it reads
the form and stops where the span stops. -/
def ReadsAt [CharacterNames] (text : Text) (f : Form) (span : Span) : Prop :=
  ∃ s e p, span = .ofNat s e ∧ readFormAt (.ofText text s) = .done p (.ofText text e) ∧ p.form = f

/-- The forms of a text with the spans that are known for them: top-level forms with
their own, and from a form on its elements with its child spans. -/
inductive Located [CharacterNames] (text : Text) : Form → Span → Prop
  | top {forms : List Positioned} {p : Positioned} : readAll text = .ok forms → p ∈ forms →
      Located text p.form p.span
  | child {f g : Form} {span s : Span} {spans : List Span} {i : Nat} : Located text f span →
      childSpans text span = .ok spans → f.elements[i]? = some g → spans[i]? = some s →
      Located text g s

/-- What the span of element `i` of the form at `span` covers: the region that the
reader gets the element from. Only in a form written with a mark is the first element
not read: it is the symbol that the mark stands for, and its span covers the mark. -/
def CoversElement [CharacterNames] (text : Text) (span : Span) (i : Nat) (g : Form) (s : Span) :
    Prop :=
  match i, shorthandAt? (text.drop span.start.toNat) with
  | 0, some m => g = .symbol m.head ∧ s = ⟨span.start, span.start + m.mark.length⟩ ∧
      slice text s.start s.stop = m.mark
  | _, _ => ReadsAt text g s

theorem Reading.Laid.readsAt {text : Text} {l : Layout} (h : Laid text l) :
    ReadsAt text l.form l.span := by
  obtain ⟨x, n, hx, hp⟩ := h.reads
  obtain ⟨c, rest, hr, _, _, _, hlex⟩ := hx.lexemeAt
  refine ⟨l.start, l.stop, l.piece, rfl, ?_, rfl⟩
  unfold readFormAt
  simp only [Cursor.ofText, hr]
  rw [Outcome.bind_of_done hlex]
  exact hp

/-- A located form has a layout, unless its span covers a mark. -/
theorem Located.laid_or_mark {text : Text} {f : Form} {span : Span} (h : Located text f span) :
    (∃ l, Laid text l ∧ l.form = f ∧ l.span = span) ∨
      f.isCompound = false ∧ ∃ m : Shorthand, slice text span.start span.stop = m.mark := by
  induction h with
  | @top forms p hr hp =>
    obtain ⟨ls, hall, _, rfl⟩ := exists_row_of_readAll hr
    obtain ⟨l, hl, rfl⟩ := List.mem_map.1 hp
    exact .inl ⟨l, hall l hl, rfl, rfl⟩
  | @child f g span s spans i _ hspans hg hs ih =>
    -- A form without elements has no children, so the parent is a compound.
    cases hc : f.isCompound with
    | false =>
      rw [Form.elements_of_not_isCompound hc] at hg
      cases hg
    | true =>
      rcases ih with ⟨l, hl, rfl, rfl⟩ | ⟨hn, _⟩
      · rw [(hl.compound hc).1] at hspans
        cases hspans
        obtain ⟨l', hl', rfl, rfl⟩ := hl.exists_part hg hs
        rcases hl.part hc hl' with ⟨_, m, _, rfl, hslice⟩ | ⟨hlaid, _⟩
        · exact .inr ⟨rfl, m, hslice⟩
        · exact .inl ⟨l', hlaid, rfl, rfl⟩
      · rw [hc] at hn
        cases hn

/-- A located compound has a layout. -/
theorem Located.laid {text : Text} {f : Form} {span : Span} (h : Located text f span)
    (hc : f.isCompound = true) : ∃ l, Laid text l ∧ l.form = f ∧ l.span = span := by
  rcases h.laid_or_mark with hl | ⟨hn, _⟩
  · exact hl
  · rw [hc] at hn
    cases hn

/-- The child spans of every located compound agree with the reader: there is one for
each element, and it covers that element. -/
theorem childSpans_agree {text : Text} {f : Form} {span : Span} (h : Located text f span)
    (hc : f.isCompound = true) :
    ∃ spans, childSpans text span = .ok spans ∧ spans.length = f.elements.length ∧
      ∀ i g s, f.elements[i]? = some g → spans[i]? = some s → CoversElement text span i g s := by
  obtain ⟨l, hl, rfl, rfl⟩ := h.laid hc
  refine ⟨_, (hl.compound hc).1, ?_, ?_⟩
  · rw [← hl.parts_form, List.length_map, List.length_map]
  · intro i g s hg hs
    obtain ⟨l', hl', rfl, rfl⟩ := hl.exists_part hg hs
    unfold CoversElement
    rw [show l.span.start.toNat = l.start from rfl]
    rcases hl.part hc hl' with ⟨rfl, m, hm, rfl, hslice⟩ | ⟨hlaid, hm⟩
    · rw [hm]
      exact ⟨rfl, rfl, hslice⟩
    · cases i with
      | zero =>
        rw [hm rfl]
        exact hlaid.readsAt
      | succ i => exact hlaid.readsAt

end

open SomeNames

theorem childSpans_agree_quoted_tail :
    ∃ spans, childSpans (Text.of "(a . 'b)") (.ofNat 5 7) = .ok spans ∧
      spans.length = (Form.quoted (.symbol (.named "b"))).elements.length ∧
      ∀ i g s, (Form.quoted (.symbol (.named "b"))).elements[i]? = some g → spans[i]? = some s →
        CoversElement (Text.of "(a . 'b)") (.ofNat 5 7) i g s := by
  have hread : readAll (Text.of "(a . 'b)") =
      .ok [⟨.dotted [.symbol (.named "a")] (.quoted (.symbol (.named "b"))), .ofNat 0 8,
        [⟨.named "a", 1, 1⟩, ⟨.named "b", 6, 1⟩]⟩] := by decide +kernel
  have hspans : childSpans (Text.of "(a . 'b)") (.ofNat 0 8) = .ok [.ofNat 1 2, .ofNat 5 7] := by
    decide +kernel
  have htail : Located (Text.of "(a . 'b)") (.quoted (.symbol (.named "b"))) (.ofNat 5 7) :=
    .child (i := 1) (.top hread (List.mem_singleton.2 rfl)) hspans rfl rfl
  exact childSpans_agree htail rfl

end LispXref
