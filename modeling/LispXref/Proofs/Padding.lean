-- Blanks and comments before a form. Main statement: put in where a form starts, at any
-- depth, they change no form, and all offsets behind them move on by their length.
import LispXref.Proofs.Offset
import LispXref.Proofs.Sequence
import LispXref.Reading.SomeNames

namespace LispXref

open Reading

/-- A text with another one put in at an offset. -/
def Text.insertAt (text : Text) (p : Nat) (pad : Text) : Text := text.take p ++ (pad ++ text.drop p)

namespace Reading

/-! ## Padding -/

/-- Blanks and whole comments, each comment with the newline that ends it. -/
inductive Padding : Text → Prop
  | nil : Padding []
  | blank {c : CodePoint} {t : Text} : isBlank c = true → Padding t → Padding (c :: t)
  | comment {line t : Text} : CodePoint.ofChar '\n' ∉ line → Padding t →
      Padding (CodePoint.ofChar ';' :: (line ++ CodePoint.ofChar '\n' :: t))

theorem afterLine_append_newline {line : Text} (h : CodePoint.ofChar '\n' ∉ line) (pos : Nat)
    (t : Text) : afterLine pos (line ++ CodePoint.ofChar '\n' :: t) = ⟨pos + (line.length + 1), t⟩ := by
  induction line generalizing pos with
  | nil => rfl
  | cons c line ih =>
    rw [List.mem_cons, not_or] at h
    obtain ⟨hc, hline⟩ := h
    rw [List.cons_append, afterLine, if_neg (Ne.symm hc), ih hline, List.length_cons]
    congr 1
    omega

/-- Padding is skipped, whatever follows it. -/
theorem Padding.skipBlanks_append {pad : Text} (h : Padding pad) (pos : Nat) (rest : Text) :
    skipBlanks ⟨pos, pad ++ rest⟩ = skipBlanks ⟨pos + pad.length, rest⟩ := by
  induction h generalizing pos with
  | nil => rfl
  | blank hb _ ih =>
    rw [List.cons_append, skipBlanks_blank _ _ hb, ih, List.length_cons]
    congr 2
    omega
  | @comment line t hline _ ih =>
    rw [List.cons_append, List.append_assoc, List.cons_append, skipBlanks_comment,
      afterLine_append_newline hline, ih]
    congr 2
    simp only [List.length_cons, List.length_append]
    omega

/-- A token ends where padding begins. -/
theorem Padding.standsAlone_append {pad : Text} (h : Padding pad) (hne : pad ≠ []) (rest : Text) :
    standsAlone (pad ++ rest) = true := by
  cases h with
  | nil => exact absurd rfl hne
  | blank hb _ =>
    rw [List.cons_append, standsAlone, hb]
    rfl
  | comment => rfl

/-! ## Offsets -/

/-- Offsets after something of length `n` was put in at `p`: what starts there or later
moves on, and so does what stops later. -/
def Moves.past (p n : Nat) : Moves where
  start x := if p ≤ x then x + n else x
  stop x := if p < x then x + n else x

/-- A region that lies on one side of an offset. -/
def Apart (p s e : Nat) : Prop := e ≤ p ∨ p ≤ s

theorem narrows_apart (p : Nat) : Narrows (Apart p) := by
  intro a b s e h has heb
  rcases h with h | h
  · exact .inl (Nat.le_trans heb h)
  · exact .inr (Nat.le_trans h has)

variable {known : CharacterNames}

section Insert

variable {text pad : Text} {p : Nat}

theorem take_insertAt (hp : p ≤ text.length) : (text.insertAt p pad).take p = text.take p :=
  List.take_left' (by rw [List.length_take, Nat.min_eq_left hp])

theorem drop_insertAt_self (hp : p ≤ text.length) :
    (text.insertAt p pad).drop p = pad ++ text.drop p :=
  List.drop_left' (by rw [List.length_take, Nat.min_eq_left hp])

theorem drop_insertAt (hp : p ≤ text.length) {q : Nat} (hq : p ≤ q) :
    (text.insertAt p pad).drop (q + pad.length) = text.drop q := by
  obtain ⟨k, rfl⟩ := Nat.exists_eq_add_of_le hq
  rw [Nat.add_assoc, ← List.drop_drop, drop_insertAt_self hp, Nat.add_comm k,
    List.drop_length_add_append, List.drop_drop]

theorem agree_insertAt (hp : p ≤ text.length) (h : Padding pad) (hne : pad ≠ []) :
    Agree text (text.insertAt p pad) p where
  take_eq := take_insertAt hp
  seam := by
    rw [drop_insertAt_self hp]
    exact .inr (h.standsAlone_append hne _)

/-- Skipping goes on behind the padding. -/
theorem skipBlanks_insertAt (hp : p ≤ text.length) (h : Padding pad) :
    skipBlanks (.ofText (text.insertAt p pad) p) =
      skipBlanks (.ofText (text.insertAt p pad) (p + pad.length)) := by
  rw [Cursor.ofText, Cursor.ofText, drop_insertAt hp (Nat.le_refl p), drop_insertAt_self hp]
  exact h.skipBlanks_append p _

/-- What lies on one side of the padding is carried over. -/
theorem carry_insertAt [CharacterNames] (hp : p ≤ text.length) (h : Padding pad) (hne : pad ≠ []) :
    Carry text (text.insertAt p pad) (.past p pad.length) (Apart p) where
  narrows := narrows_apart p
  lexeme := by
    intro s n x hk hx
    have hlt := hx.bounds.1
    rcases hk with hn | hs
    · simp only [Moves.past, if_neg (by omega : ¬p ≤ s), if_neg (by omega : ¬p < n)]
      exact (agree_insertAt hp h hne).lexeme hn hx
    · simp only [Moves.past, if_pos hs, if_pos (by omega : p < n)]
      exact hx.forward (drop_insertAt hp hs) (drop_insertAt hp (by omega))
  gap := by
    intro q s n x hq hs hg hx
    have hqs := hg.le
    by_cases hsp : s < p
    · have hn : n ≤ p := by
        rcases hs with hn | hps
        · exact hn
        · omega
      simp only [Moves.past, if_neg (by omega : ¬p ≤ s), if_neg (by omega : ¬p < q)]
      exact (agree_insertAt hp h hne).gap hn hg hx
    · have hps : p ≤ s := by omega
      simp only [Moves.past, if_pos hps]
      by_cases hqp : p < q
      · rw [if_pos hqp]
        exact hg.forward (drop_insertAt hp (by omega)) (drop_insertAt hp hps)
      · -- The gap reaches the padding, so it now goes on behind it.
        rw [if_neg hqp]
        have hreach : skipBlanks (.ofText (text.insertAt p pad) q) =
            skipBlanks (.ofText (text.insertAt p pad) p) ∧ Gap text p s := by
          rcases hq with hsp' | hpq
          · obtain rfl : s = p := Nat.le_antisymm hsp' hps
            exact ⟨(agree_insertAt hp h hne).skip_gap hsp' hg hx, hx.gap_self⟩
          · obtain rfl : q = p := by omega
            exact ⟨rfl, hg⟩
        obtain ⟨hskip, hgap⟩ := hreach
        refine (hskip.trans (skipBlanks_insertAt hp h)).trans ?_
        exact hgap.forward (drop_insertAt hp (Nat.le_refl p)) (drop_insertAt hp hps)
  width := by
    intro s n hk hlt
    rcases hk with hn | hs
    · simp only [Moves.past, if_neg (by omega : ¬p ≤ s), if_neg (by omega : ¬p < n)]
      omega
    · simp only [Moves.past, if_pos hs, if_pos (by omega : p < n)]
      omega

end Insert

/-! ## Clear layouts -/

/-- In a row, the layouts around one that an offset lies in are apart from the offset. -/
theorem Row.clear_around {p q e : Nat} {ls : List Layout} {l : Layout} (h : Row q ls e)
    (hle : ∀ l ∈ ls, l.start ≤ l.stop) (hl : l ∈ ls) (hc : l.Clear (Apart p)) (hs : l.start ≤ p)
    (he : p ≤ l.stop) : ClearRow (Apart p) q ls e := by
  induction ls generalizing q with
  | nil => cases hl
  | cons k ls ih =>
    obtain ⟨_, hrow⟩ := h
    have hle' : ∀ l ∈ ls, l.start ≤ l.stop := fun l hl => hle l (List.mem_cons_of_mem _ hl)
    rcases List.mem_cons.1 hl with rfl | hl
    · refine .cons (.inl hs) hc ?_
      exact hrow.clear (narrows_apart p) hle' (.inr he) (Nat.le_refl _) (Nat.le_refl _)
    · have hk : k.stop ≤ p := Nat.le_trans (hrow.bounds hle' hl).1 hs
      refine .cons (.inl (Nat.le_trans (hle k List.mem_cons_self) hk)) (.whole (.inl hk)) ?_
      exact ih hrow hle' hl

/-- Every part of a layout has at least one character, also a mark. -/
theorem Laid.lt_of_mem_parts {text : Text} {l l' : Layout} (h : Laid text l) (hl : l' ∈ l.parts) :
    l'.start < l'.stop := by
  refine (h.induction_on_parts
    (P := fun l => l.start < l.stop ∧ ∀ l' ∈ l.parts, l'.start < l'.stop) ?_ ?_).2 l' hl
  · intro m s q hx
    obtain rfl : q = s + m.mark.length := hx.spelled.2.1
    exact ⟨hx.bounds.1, nofun⟩
  · intro l hl hparts
    exact ⟨hl.bounds.1, fun l' hl' => (hparts l' hl').1⟩

/-- The parts of a clear layout are clear. -/
theorem Laid.clear_part {text : Text} {K : Nat → Nat → Prop} (hK : Narrows K) {l l' : Layout}
    (h : Laid text l) (hc : l.Clear K) (hl : l' ∈ l.parts) : l'.Clear K := by
  cases hc with
  | whole hk =>
    have hrow := h.row_parts.clear hK (fun k hk => Nat.le_of_lt (h.lt_of_mem_parts hk)) hk
      (Nat.le_refl _) (Nat.le_refl _)
    exact hrow.clear_of_mem hl
  | parts hrow => exact hrow.clear_of_mem hl

end Reading

/-! ## Located forms -/

theorem Form.isCompound_of_getElem?_elements {f g : Form} {i : Nat} (h : f.elements[i]? = some g) :
    f.isCompound = true := by
  cases hc : f.isCompound with
  | true => rfl
  | false =>
    rw [elements_of_not_isCompound hc] at h
    cases h

section Located

variable {known : CharacterNames}
variable {text : Text} {ls : List Layout} {e : Nat} {f : Form} {span : Span}

/-- A part of the layout of a located compound, for each element and child span. -/
theorem Reading.Laid.exists_part_of_childSpans {l : Layout} (h : Laid text l) {i : Nat} {g : Form}
    {s : Span} {spans : List Span} (hspans : childSpans text l.span = .ok spans)
    (hg : l.form.elements[i]? = some g) (hs : spans[i]? = some s) :
    ∃ l', l'.form = g ∧ l'.span = s ∧ l' ∈ l.parts ∧ (g.isCompound = true → Laid text l') := by
  have hc := Form.isCompound_of_getElem?_elements hg
  rw [(h.compound hc).1] at hspans
  cases hspans
  obtain ⟨l', hl', rfl, rfl⟩ := h.exists_part hg hs
  refine ⟨l', rfl, rfl, List.mem_of_getElem? hl', fun hcompound => ?_⟩
  rcases h.part hc hl' with ⟨_, m, _, rfl, _⟩ | ⟨hlaid, _⟩
  · cases hcompound
  · exact hlaid

/-- Where an offset lies in a located form without harm to it, the offset lies in the text
without harm. -/
theorem Located.clearRow_around (h : Located text f span)
    (hread : readAll text = .ok (ls.map Layout.positioned)) (hall : ∀ l ∈ ls, Laid text l)
    (hrow : Row 0 ls e) :
    ∃ l, l.form = f ∧ l.span = span ∧ l.start < l.stop ∧ l.stop ≤ e ∧
      (f.isCompound = true → Laid text l) ∧
      ∀ p, l.start ≤ p → p ≤ l.stop → l.Clear (Apart p) → ClearRow (Apart p) 0 ls e := by
  have hle : ∀ l ∈ ls, l.start ≤ l.stop := fun l hl => (hall l hl).start_le_stop
  induction h with
  | top hforms hp =>
    rw [hread] at hforms
    cases hforms
    obtain ⟨l, hl, rfl⟩ := List.mem_map.1 hp
    refine ⟨l, rfl, rfl, (hall l hl).bounds.1, (hrow.bounds hle hl).2, fun _ => hall l hl, ?_⟩
    intro p hs he hc
    exact hrow.clear_around hle hl hc hs he
  | @child f g span s spans i _ hspans hg hs ih =>
    obtain ⟨l, rfl, rfl, hlt, hstop, hlaid, hup⟩ := ih
    have hl := hlaid (Form.isCompound_of_getElem?_elements hg)
    have hle' : ∀ k ∈ l.parts, k.start ≤ k.stop := fun k hk => Nat.le_of_lt (hl.lt_of_mem_parts hk)
    obtain ⟨l', rfl, rfl, hmem, hlaid'⟩ := hl.exists_part_of_childSpans hspans hg hs
    obtain ⟨hstart', hstop'⟩ := hl.row_parts.bounds hle' hmem
    refine ⟨l', rfl, rfl, hl.lt_of_mem_parts hmem, Nat.le_trans hstop' hstop, hlaid', ?_⟩
    intro p hps hpe hc
    refine hup p (Nat.le_trans hstart' hps) (Nat.le_trans hpe hstop') (.parts ?_)
    exact hl.row_parts.clear_around hle' hmem hc hps hpe

/-- A located compound of a clear text has a clear layout. -/
theorem Located.exists_clear {K : Nat → Nat → Prop} (hK : Narrows K) (h : Located text f span)
    (hread : readAll text = .ok (ls.map Layout.positioned)) (hall : ∀ l ∈ ls, Laid text l)
    (hrow : ClearRow K 0 ls e) (hc : f.isCompound = true) :
    ∃ l, Laid text l ∧ l.Clear K ∧ l.form = f ∧ l.span = span := by
  induction h with
  | top hforms hp =>
    rw [hread] at hforms
    cases hforms
    obtain ⟨l, hl, rfl⟩ := List.mem_map.1 hp
    exact ⟨l, hall l hl, hrow.clear_of_mem hl, rfl, rfl⟩
  | @child f g span s spans i _ hspans hg hs ih =>
    obtain ⟨l, hl, hclear, rfl, rfl⟩ := ih (Form.isCompound_of_getElem?_elements hg)
    obtain ⟨l', rfl, rfl, hmem, hlaid⟩ := hl.exists_part_of_childSpans hspans hg hs
    exact ⟨l', hlaid hc, hl.clear_part hK hclear hmem, rfl, rfl⟩

end Located

/-! ## Positions after padding -/

/-- A span of a text at its new offsets. -/
def Span.move (m : Moves) (s : Span) : Span := .ofNat (m.start s.start.toNat) (m.stop s.stop.toNat)

/-- A top-level form at its new offsets. Its symbol tokens move as offsets of the text,
and then count from the new start. -/
def Reading.Positioned.move (m : Moves) (p : Positioned) : Positioned :=
  ⟨p.form, p.span.move m, p.occurrences.map fun o =>
    { o with offset := m.start (p.span.start.toNat + o.offset) - m.start p.span.start.toNat }⟩

theorem Reading.Layout.span_move (m : Moves) (l : Layout) : (l.move m).span = l.span.move m := by
  rw [span, start_move, stop_move]
  rfl

section

variable {known : CharacterNames}

theorem Reading.Laid.positioned_move {text : Text} {l : Layout} (h : Laid text l) (m : Moves) :
    (l.move m).positioned = l.positioned.move m := by
  rw [Layout.positioned, Layout.start_move, Layout.stop_move, Layout.piece_move]
  unfold Positioned.ofPiece Positioned.move Layout.positioned Positioned.ofPiece Piece.move
  simp only [List.map_map]
  congr 1
  refine List.map_congr_left fun o ho => ?_
  have hle : (l.start : Int) ≤ o.offset :=
    (h.inOrder_occurrences.mem (List.mem_map_of_mem ho)).1
  simp only [Function.comp, Occurrence.move, Span.ofNat, Int.toNat_natCast]
  rw [show l.start + (o.offset - l.start) = o.offset by omega]

section Insert

variable {text pad : Text} {p e : Nat} {ls : List Layout}

/-- The sequence of forms is read again behind and before the padding, and nothing more. -/
theorem Reading.Follow.readAll_of_clearRow (h : Follow text 0 ls e)
    (hend : readForms (.ofText text e) = .ok []) (hclear : ClearRow (Apart p) 0 ls e) (hpe : p < e)
    (hpad : Padding pad) (hne : pad ≠ []) :
    readAll (text.insertAt p pad) =
      .ok ((ls.map Layout.positioned).map (.move (.past p pad.length))) := by
  have hp : p ≤ text.length := Nat.le_trans (Nat.le_of_lt hpe) (h.stop_le (Nat.zero_le _))
  have hmoved := h.carry (carry_insertAt hp hpad hne) hclear
  have hzero : (Moves.past p pad.length).stop 0 = 0 := by
    simp only [Moves.past, Nat.not_lt_zero, if_false]
  have hstop : (Moves.past p pad.length).stop e = e + pad.length := if_pos hpe
  rw [hzero, hstop] at hmoved
  have hnone : readForms (.ofText (text.insertAt p pad) (e + pad.length)) = .ok [] := by
    rw [Cursor.ofText_forward (drop_insertAt hp (Nat.le_of_lt hpe)), readForms_shift, hend]
    rfl
  have hpositioned : (ls.map (Layout.move (.past p pad.length))).map Layout.positioned =
      (ls.map Layout.positioned).map (.move (.past p pad.length)) := by
    rw [List.map_map, List.map_map]
    exact List.map_congr_left fun l hl => (h.laid l hl).positioned_move _
  rw [readAll_eq, hmoved.readForms_of_end hnone, hpositioned]
  rfl

/-- The children of a located compound move with their text. -/
theorem Located.childSpans_move {text' : Text} {m : Moves} {K : Nat → Nat → Prop} {g : Form}
    {s : Span} (h : Located text g s) (c : Carry text text' m K)
    (hread : readAll text = .ok (ls.map Layout.positioned)) (hall : ∀ l ∈ ls, Laid text l)
    (hclear : ClearRow K 0 ls e) (hc : g.isCompound = true) :
    childSpans text' (s.move m) = (childSpans text s).map (List.map (.move m)) := by
  obtain ⟨l, hl, hcl, rfl, rfl⟩ := h.exists_clear c.narrows hread hall hclear hc
  have hmoved := ((hl.carry c hcl).compound (by rw [Layout.form_move]; exact hc)).1
  rw [(hl.compound hc).1, ← Layout.span_move, hmoved, Layout.parts_move, List.map_map]
  simp only [Except.map, List.map_map, Function.comp_def, Layout.span_move]

/-- Located forms stay located. -/
theorem Located.move {text' : Text} {m : Moves} {K : Nat → Nat → Prop} {g : Form} {s : Span}
    (h : Located text g s) (c : Carry text text' m K)
    (hread : readAll text = .ok (ls.map Layout.positioned)) (hall : ∀ l ∈ ls, Laid text l)
    (hclear : ClearRow K 0 ls e)
    (hread' : readAll text' = .ok ((ls.map Layout.positioned).map (.move m))) :
    Located text' g (s.move m) := by
  induction h with
  | @top forms q hforms hq =>
    rw [hread] at hforms
    cases hforms
    exact .top hread' (List.mem_map_of_mem hq)
  | @child f g span s spans i hf hspans hg hs ih =>
    have hmoved := hf.childSpans_move c hread hall hclear (Form.isCompound_of_getElem?_elements hg)
    rw [hspans] at hmoved
    exact .child ih hmoved hg (by rw [List.getElem?_map, hs]; rfl)

end Insert

/-- Layout does not matter. Padding at the start of a located form changes no form: the
top-level forms are the same at their new offsets, and so are the located forms at every
depth. -/
theorem readAll_insertAt {text pad : Text} {forms : List Positioned} {f : Form} {span : Span}
    (hread : readAll text = .ok forms) (hf : Located text f span) (hpad : Padding pad)
    (hne : pad ≠ []) :
    readAll (text.insertAt span.start.toNat pad) =
      .ok (forms.map (.move (.past span.start.toNat pad.length))) ∧
    ∀ g s, Located text g s →
      Located (text.insertAt span.start.toNat pad) g (s.move (.past span.start.toNat pad.length)) ∧
      (g.isCompound = true → childSpans (text.insertAt span.start.toNat pad)
          (s.move (.past span.start.toNat pad.length)) =
        (childSpans text s).map (List.map (.move (.past span.start.toNat pad.length)))) := by
  obtain ⟨ls, e, hfollow, hend, rfl⟩ := exists_follow_of_readAll hread
  obtain ⟨l, rfl, rfl, hlt, hstop, _, hup⟩ := hf.clearRow_around hread hfollow.laid hfollow.row
  have hclear := hup l.start (Nat.le_refl _) (Nat.le_of_lt hlt) (.whole (.inr (Nat.le_refl _)))
  have hpe : l.start < e := Nat.lt_of_lt_of_le hlt hstop
  have hp : l.start ≤ text.length :=
    Nat.le_trans (Nat.le_of_lt hpe) (hfollow.stop_le (Nat.zero_le _))
  have hcarry := carry_insertAt hp hpad hne
  have hread' := hfollow.readAll_of_clearRow hend hclear hpe hpad hne
  refine ⟨hread', fun g s hg => ⟨?_, fun hc => ?_⟩⟩
  · exact hg.move hcarry hread hfollow.laid hclear hread'
  · exact hg.childSpans_move hcarry hread hfollow.laid hclear hc

end

open SomeNames

theorem readAll_insertAt_tail_and_token :
    readAll ((Text.of "(a . b)#'c").insertAt 5 (Text.of "\t;x\n")) =
      .ok [⟨.dotted [.symbol (.named "a")] (.symbol (.named "b")), .ofNat 0 11,
          [⟨.named "a", 1, 1⟩, ⟨.named "b", 9, 1⟩]⟩,
        ⟨Shorthand.function.apply (.symbol (.named "c")), .ofNat 11 14, [⟨.named "c", 2, 1⟩]⟩] ∧
    Located ((Text.of "(a . b)#'c").insertAt 5 (Text.of "\t;x\n")) (.symbol (.named "b"))
      (.ofNat 9 10) := by
  have hread : readAll (Text.of "(a . b)#'c") =
      .ok [⟨.dotted [.symbol (.named "a")] (.symbol (.named "b")), .ofNat 0 7,
          [⟨.named "a", 1, 1⟩, ⟨.named "b", 5, 1⟩]⟩,
        ⟨Shorthand.function.apply (.symbol (.named "c")), .ofNat 7 10, [⟨.named "c", 2, 1⟩]⟩] := by
    decide +kernel
  have hspans : childSpans (Text.of "(a . b)#'c") (.ofNat 0 7) = .ok [.ofNat 1 2, .ofNat 5 6] := by
    decide +kernel
  have htail : Located (Text.of "(a . b)#'c") (.symbol (.named "b")) (.ofNat 5 6) :=
    .child (i := 1) (.top hread List.mem_cons_self) hspans rfl rfl
  have hpad : Padding (Text.of "\t;x\n") :=
    .blank (by decide) (@Padding.comment (Text.of "x") [] (by decide) .nil)
  obtain ⟨hforms, hlocated⟩ := readAll_insertAt hread htail hpad (by decide)
  exact ⟨hforms, (hlocated _ _ htail).1⟩

end LispXref
