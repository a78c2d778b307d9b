-- Cutting a text around a form does not change how the form is read. Main
-- statement: a form with a layout in a text is read from every piece of the text
-- that holds all of it, at the same place counted from where the piece begins.
import LispXref.Proofs.Layout

namespace LispXref.Reading

/-! ## Reading at an offset -/

/-- A form is read between two offsets: a lexeme stands at the first of them, and the
form that begins with it ends at the second. -/
def Reads [CharacterNames] (text : Text) (s : Nat) (p : Piece) (e : Nat) : Prop :=
  ∃ x n, LexemeAt text s x n ∧ readForm ⟨s, x⟩ (.ofText text n) = .done p (.ofText text e)

variable {known : CharacterNames}

/-- No form begins with a dot or a closing delimiter. -/
theorem begins_of_readForm {x : Lexed} {cur next : Cursor} {p : Piece}
    (h : readForm x cur = .done p next) : x.lexeme ≠ .dot ∧ ∀ c, x.lexeme ≠ .closer c := by
  rw [readForm_eq] at h
  constructor
  · intro hx
    rw [hx] at h
    cases h
  · intro c hx
    rw [hx] at h
    cases h

theorem LexemeAt.reads_atom {text : Text} {s e : Nat} {f : Form} (h : LexemeAt text s (.atom f) e) :
    Reads text s (.ofAtom s e f) e := by
  refine ⟨_, _, h, ?_⟩
  rw [readForm_eq]
  rfl

theorem Reads.shorthand {text : Text} {s q t e : Nat} {m : Shorthand} {p : Piece}
    (h : Reads text t p e) (hx : LexemeAt text s (.shorthand m) q) (hg : Gap text q t) :
    Reads text s (p.shorthand m) e := by
  obtain ⟨y, n, hy, hp⟩ := h
  refine ⟨_, _, hx, ?_⟩
  rw [readForm_eq]
  simp only
  rw [hg.lex_eq, Outcome.bind_of_done hy]
  simp only
  rw [hp]
  rfl

/-- Between brackets, a form is the next item. -/
theorem Reads.readItems {text : Text} {q s e : Nat} {p : Piece} (h : Reads text s p e)
    (hg : Gap text q s) (b : Bracket) (begun : Bool) :
    readItems b begun (.ofText text q) =
      (Reading.readItems b true (.ofText text e)).map (.cons p) := by
  obtain ⟨x, n, hx, hp⟩ := h
  obtain ⟨hdot, hcloser⟩ := begins_of_readForm hp
  rw [readItems_eq, hg.lex_eq, Outcome.bind_of_done hx]
  cases x with
  | closer c => exact absurd rfl (hcloser c)
  | dot => exact absurd rfl hdot
  | atom f | shorthand m | opener b' =>
    simp only
    rw [Outcome.bind_of_done hp]

theorem LexemeAt.closeTail {text : Text} {q t e : Nat} (h : LexemeAt text t (.closer ')') e)
    (hg : Gap text q t) : closeTail (.ofText text q) = .done () (.ofText text e) := by
  obtain ⟨hr, he⟩ := h.spelled
  simp only [Cursor.ofText] at hr he
  unfold Reading.closeTail
  rw [Outcome.bind_of_done hg]
  simp only [Cursor.ofText, hr, if_true, he]

/-- After a dot, a form and a closing parenthesis are the tail. -/
theorem Reads.readAfterDot {text : Text} {q s t r e : Nat} {p : Piece} (h : Reads text s p t)
    (hg : Gap text q s) (hr : Gap text t r) (hx : LexemeAt text r (.closer ')') e) (dot : Nat) :
    readAfterDot dot (.ofText text q) = .done (.ofTail p) (.ofText text e) := by
  obtain ⟨x, n, hy, hp⟩ := h
  obtain ⟨_, hcloser⟩ := begins_of_readForm hp
  have hx' : x.isParenthesis = false := by
    cases x with
    | closer c => exact absurd rfl (hcloser c)
    | _ => rfl
  rw [readAfterDot_eq, hg.lex_eq, Outcome.bind_of_done hy]
  simp only [hx', Bool.false_eq_true, if_false]
  rw [Outcome.bind_of_done hp, hx.closeTail hr]
  rfl

theorem LexemeAt.readItems_close {text : Text} {q r e : Nat} {b : Bracket}
    (h : LexemeAt text r (.closer b.closer) e) (hg : Gap text q r) (begun : Bool) :
    readItems b begun (.ofText text q) = .done .empty (.ofText text e) := by
  rw [readItems_eq, hg.lex_eq, Outcome.bind_of_done h]
  simp only [if_true]

theorem LexemeAt.readItems_dot {text : Text} {q r d : Nat} (h : LexemeAt text r .dot d)
    (hg : Gap text q r) :
    readItems .list true (.ofText text q) = readAfterDot r (.ofText text d) := by
  rw [readItems_eq, hg.lex_eq, Outcome.bind_of_done h]
  simp only [and_self, if_true]

/-! ## Pieces of a text -/

/-- The characters from one offset up to another. -/
def cut (text : Text) (a e : Nat) : Text := (text.take e).drop a

theorem cut_all (text : Text) : cut text 0 text.length = text := by simp [cut]

theorem length_cut {text : Text} {a e : Nat} (he : e ≤ text.length) :
    (cut text a e).length = e - a := by
  simp [cut, Nat.min_eq_left he]

/-- What follows an offset in a piece of a text. -/
theorem drop_cut {text : Text} {a q : Nat} (e : Nat) (ha : a ≤ q) :
    (cut text a e).drop (q - a) = cut text q e := by
  rw [cut, List.drop_drop, Nat.add_sub_cancel' ha]
  rfl

theorem drop_eq_cut_append (text : Text) {q s : Nat} (hqs : q ≤ s) :
    text.drop q = cut text q s ++ text.drop s := by
  have hsplit := List.take_append_drop (s - q) (text.drop q)
  rw [List.drop_drop, Nat.add_sub_cancel' hqs, ← List.drop_take] at hsplit
  exact hsplit.symm

theorem cut_append_cut (text : Text) {s n e : Nat} (hs : s ≤ n) (he : n ≤ e) :
    cut text s n ++ cut text n e = cut text s e := by
  have hsplit := drop_eq_cut_append (text.take e) hs
  rw [cut, List.take_take, Nat.min_eq_left he] at hsplit
  exact hsplit.symm

/-- A piece of a text goes on as the text does, or not at all. -/
theorem seam_cut (text : Text) (n e : Nat) : Seam (text.drop n) (cut text n e) := by
  rw [cut, List.drop_take]
  cases e - n with
  | zero => exact .end _
  | succ k =>
    left
    cases text.drop n <;> rfl

/-- Blanks and comments do not begin like a lexeme. -/
theorem skipBlanks_of_lexemeAt {pos : Nat} {c : CodePoint} {rest : Text} {x : Lexeme}
    {next : Cursor} (h : lexemeAt pos c rest = .done x next) (hb : isBlank c = false)
    (hs : c ≠ ';') :
    skipBlanks ⟨pos, c :: rest⟩ = .done () ⟨pos, c :: rest⟩ := by
  rw [skipBlanks.eq_def]
  simp only [hb, Bool.false_eq_true, if_false, if_neg hs]
  split
  · rename_i hc
    subst hc
    split
    · rfl
    · -- A mark that begins a comment begins no lexeme.
      split
      · rename_i hd
        subst hd
        cases h
      · split
        · rename_i hd
          subst hd
          cases h
        · rfl
  · rfl

theorem LexemeAt.of_lexemeAt {text : Text} {s n : Nat} {x : Lexeme} {c : CodePoint} {rest : Text}
    (hr : text.drop s = c :: rest) (hb : isBlank c = false) (hs : c ≠ ';')
    (h : Reading.lexemeAt s c rest = .done x (.ofText text n)) : LexemeAt text s x n := by
  have hskip := skipBlanks_of_lexemeAt h hb hs
  unfold LexemeAt lex
  rw [show Cursor.ofText text s = ⟨s, c :: rest⟩ by rw [Cursor.ofText, hr], Outcome.bind_of_done hskip]
  simp only
  rw [h]
  rfl

/-! ## Lexemes and gaps that stand again -/

/-- A lexeme stands wherever its characters do, before a seam. -/
theorem LexemeAt.again {text text' rest' : Text} {s n s' : Nat} {x : Lexeme}
    (h : LexemeAt text s x n) (ht : text'.drop s' = cut text s n ++ rest')
    (hs : Seam (text.drop n) rest') : LexemeAt text' s' x (s' + (n - s)) := by
  obtain ⟨hlt, hle⟩ := h.bounds
  obtain ⟨c, rest, hr, hb, hc, _, hx⟩ := h.lexemeAt
  obtain ⟨taken, htaken, hp, hl⟩ := lexemeAt_local c rest hb hc s x _ hx
  simp only [Cursor.ofText] at htaken hp hl
  have hcut : cut text s n = c :: taken := by
    have hdrop := drop_eq_cut_append text (Nat.le_of_lt hlt)
    rw [hr, htaken, ← List.cons_append] at hdrop
    exact (List.append_cancel_right hdrop).symm
  rw [hcut, List.cons_append] at ht
  have hend : text'.drop (s' + (n - s)) = rest' := by
    have hlen : n - s = (c :: taken).length := by
      rw [List.length_cons]
      omega
    rw [← List.drop_drop, ht, ← List.cons_append, hlen, List.drop_left]
  refine .of_lexemeAt ht hb hc ?_
  rw [Cursor.ofText, hend, show s' + (n - s) = s' + 1 + taken.length by omega]
  exact hl s' rest' hs

/-- Blanks and comments before a lexeme are skipped wherever they stand. -/
theorem Gap.skip_again {text text' rest' : Text} {q s n q' : Nat} {x : Lexeme} (h : Gap text q s)
    (hx : LexemeAt text s x n) (ht : text'.drop q' = cut text q s ++ rest')
    (hs : Seam (text.drop s) rest') :
    skipBlanks (.ofText text' q') = skipBlanks (.ofText text' (q' + (s - q))) := by
  have hqs := h.le
  have hne : text.drop s ≠ [] := by
    have := hx.bounds
    rw [Ne, List.drop_eq_nil_iff]
    omega
  obtain ⟨taken, htaken, hp, hl⟩ := skips_of_skipBlanks h hne
  simp only [Cursor.ofText] at htaken hp hl
  have hcut : cut text q s = taken := by
    have hdrop := drop_eq_cut_append text hqs
    rw [htaken] at hdrop
    exact (List.append_cancel_right hdrop).symm
  rw [hcut] at ht
  have hend : text'.drop (q' + taken.length) = rest' := by
    rw [← List.drop_drop, ht, List.drop_left]
  rw [show s - q = taken.length by omega]
  simp only [Cursor.ofText, hend, ht]
  exact hl q' rest' hs

theorem LexemeAt.gap_self {text : Text} {s n : Nat} {x : Lexeme} (h : LexemeAt text s x n) :
    Gap text s s := by
  obtain ⟨_, _, _, _, _, hg, _⟩ := h.lexemeAt
  exact hg

section Cut

variable {text : Text} {a e : Nat}

/-- A lexeme stands in every piece that holds it. -/
theorem LexemeAt.in_cut {s n : Nat} {x : Lexeme} (h : LexemeAt text s x n) (ha : a ≤ s)
    (he : n ≤ e) : LexemeAt (cut text a e) (s - a) x (n - a) := by
  have hsn := Nat.le_of_lt h.bounds.1
  have hdrop : (cut text a e).drop (s - a) = cut text s n ++ cut text n e := by
    rw [drop_cut e ha, cut_append_cut text hsn he]
  have hagain := h.again hdrop (seam_cut text n e)
  rw [show s - a + (n - s) = n - a by omega] at hagain
  exact hagain

/-- A gap before a lexeme is the same in every piece that holds both. -/
theorem Gap.in_cut {q s n : Nat} {x : Lexeme} (h : Gap text q s) (hx : LexemeAt text s x n)
    (ha : a ≤ q) (he : n ≤ e) : Gap (cut text a e) (q - a) (s - a) := by
  have hqs := h.le
  have hse : s ≤ e := Nat.le_trans (Nat.le_of_lt hx.bounds.1) he
  have hdrop : (cut text a e).drop (q - a) = cut text q s ++ cut text s e := by
    rw [drop_cut e ha, cut_append_cut text hqs hse]
  have hskip := h.skip_again hx hdrop (seam_cut text s e)
  rw [show q - a + (s - q) = s - a by omega] at hskip
  exact hskip.trans (hx.in_cut (Nat.le_trans ha hqs) he).gap_self

/-! ## Forms in pieces of a text -/

/-- A symbol token, its offset counted from `a`. -/
def Occurrence.rebase (a : Nat) (o : Occurrence) : Occurrence := { o with offset := o.offset - a }

/-- A form whose symbol tokens are counted from `a`. -/
def Piece.rebase (a : Nat) (p : Piece) : Piece := ⟨p.form, p.occurrences.map (.rebase a)⟩

/-- Contents whose symbol tokens are counted from `a`. -/
def Contents.rebase (a : Nat) (c : Contents) : Contents :=
  ⟨c.items, c.tail, c.occurrences.map (.rebase a)⟩

theorem Piece.rebase_zero (p : Piece) : p.rebase 0 = p := by
  have h : Occurrence.rebase 0 = id := rfl
  rw [rebase, h, List.map_id]

theorem Piece.rebase_ofAtom {s n : Nat} (ha : a ≤ s) (hn : s ≤ n) (f : Form) :
    (Piece.ofAtom s n f).rebase a = .ofAtom (s - a) (n - a) f := by
  have hlen : n - a - (s - a) = n - s := by omega
  cases f with
  | symbol x => simp [ofAtom, rebase, Occurrence.rebase, hlen]
  | _ => rfl

theorem Contents.rebase_cons (a : Nat) (p : Piece) (c : Contents) :
    (Contents.cons p c).rebase a = .cons (p.rebase a) (c.rebase a) := by
  simp [cons, rebase, Piece.rebase]

theorem Bracket.build_rebase {b : Bracket} {s : Nat} {c : Contents} {p : Piece} {next after : Cursor}
    (h : b.build s c next = .done p after) (a s' : Nat) (next' : Cursor) :
    b.build s' (c.rebase a) next' = .done (p.rebase a) next' := by
  obtain ⟨hf, ho, _⟩ := Bracket.build_eq_done.1 h
  exact Bracket.build_eq_done.2 ⟨hf, congrArg (List.map (Occurrence.rebase a)) ho, rfl⟩

/-- A form begins with a lexeme that lies in it. -/
theorem Laid.exists_first {l : Layout} (h : Laid text l) :
    ∃ x n, LexemeAt text l.start x n ∧ n ≤ l.stop := by
  cases h with
  | atom hx => exact ⟨_, _, hx, Nat.le_refl _⟩
  | shorthand hx hg hi => exact ⟨_, _, hx, Nat.le_trans hg.le hi.start_le_stop⟩
  | bracket hx hin _ hall => exact ⟨_, _, hx, Nat.le_of_lt (hin.lt hall)⟩

theorem Gap.in_cut_of_laid {q : Nat} {l : Layout} (h : Gap text q l.start) (hl : Laid text l)
    (ha : a ≤ q) (he : l.stop ≤ e) : Gap (cut text a e) (q - a) (l.start - a) := by
  obtain ⟨x, n, hx, hn⟩ := hl.exists_first
  exact h.in_cut hx ha (Nat.le_trans hn he)

/-- The form of a layout is read from a piece of the text. -/
def Layout.ReadsIn [CharacterNames] (text : Text) (a e : Nat) (l : Layout) : Prop :=
  a ≤ l.start → l.stop ≤ e → Reads (cut text a e) (l.start - a) (l.piece.rebase a) (l.stop - a)

/-- Contents are read from a piece of the text if their items and tail are. -/
theorem Inside.readItems_cut {b : Bracket} {q t : Nat} {items : List Layout} {tail : Option Layout}
    (h : Inside text b q items tail t) (hall : ∀ l ∈ items ++ tail.toList, Laid text l)
    (hreads : ∀ l ∈ items ++ tail.toList, l.ReadsIn text a e) (ha : a ≤ q) (he : t ≤ e) (begun : Bool)
    (hbegun : items = [] → begun = false → tail = none) :
    readItems b begun (.ofText (cut text a e) (q - a)) =
      .done ((Contents.ofLayouts items tail).rebase a) (.ofText (cut text a e) (t - a)) := by
  induction h generalizing begun with
  | close hg hx =>
    have hr := Nat.le_trans ha hg.le
    exact (hx.in_cut hr he).readItems_close (hg.in_cut hx ha he) begun
  | @tail q r d t u l hb hg hd hg' hstop hx =>
    subst hb
    have hl := hall l (by simp)
    have har : a ≤ r := Nat.le_trans ha hg.le
    have had : a ≤ d := Nat.le_trans har (Nat.le_of_lt hd.bounds.1)
    have hal : a ≤ l.start := Nat.le_trans had hg'.le
    have hstop' : a ≤ l.stop := Nat.le_trans hal hl.start_le_stop
    have hte : t ≤ e := Nat.le_trans (Nat.le_of_lt hx.bounds.1) he
    have hle : l.stop ≤ e := Nat.le_trans hstop.le hte
    have hde : d ≤ e := Nat.le_trans hg'.le (Nat.le_trans hl.start_le_stop hle)
    have hlread := hreads l (by simp) hal hle
    have hclose := hx.in_cut (Nat.le_trans hstop' hstop.le) he
    cases begun with
    | false => cases hbegun rfl rfl
    | true =>
      rw [(hd.in_cut har hde).readItems_dot (hg.in_cut hd ha hde),
        hlread.readAfterDot (hg'.in_cut_of_laid hl had hle) (hstop.in_cut hx hstop' he) hclose,
        Contents.ofLayouts_tail]
      rfl
  | @item q t l ls tail hg hin ih =>
    have hl := hall l (by simp)
    have hrest : ∀ l' ∈ ls ++ tail.toList, Laid text l' := fun l' hl' => hall l' (by simp [hl'])
    have hle : l.stop ≤ e := Nat.le_trans (Nat.le_of_lt (hin.lt hrest)) he
    have hal : a ≤ l.start := Nat.le_trans ha hg.le
    have hstop : a ≤ l.stop := Nat.le_trans hal hl.start_le_stop
    have hlread := hreads l (by simp) hal hle
    have hls := ih hrest (fun l' hl' => hreads l' (by simp [hl'])) hstop he true nofun
    rw [hlread.readItems (hg.in_cut_of_laid hl ha hle), hls, Contents.ofLayouts_cons,
      Contents.rebase_cons]
    rfl

/-- A form with a layout in a text is read from every piece of it that holds the
form. -/
theorem Laid.reads_cut {l : Layout} (h : Laid text l) : l.ReadsIn text a e := by
  induction h with
  | @atom s n f hx =>
    intro (ha : a ≤ s) he
    show Reads _ (s - a) ((Piece.ofAtom s n f).rebase a) (n - a)
    rw [Piece.rebase_ofAtom ha (Nat.le_of_lt hx.bounds.1)]
    exact (hx.in_cut ha he).reads_atom
  | @shorthand s q m inner hx hg hi ih =>
    intro ha he
    have hq : a ≤ q := Nat.le_trans ha (Nat.le_of_lt hx.bounds.1)
    have hqe : q ≤ e := Nat.le_trans hg.le (Nat.le_trans hi.start_le_stop he)
    have hread := ih (Nat.le_trans hq hg.le) he
    exact hread.shorthand (hx.in_cut ha hqe) (hg.in_cut_of_laid hi hq he)
  | @bracket s q t b items tail p hx hin hfirst hall hb ih =>
    intro ha he
    have hq : a ≤ q := Nat.le_trans ha (Nat.le_of_lt hx.bounds.1)
    have hqe : q ≤ e := Nat.le_trans (Nat.le_of_lt (hin.lt hall)) he
    have hitems := hin.readItems_cut hall ih hq he false fun hnil _ => hfirst hnil
    refine ⟨_, _, hx.in_cut ha hqe, ?_⟩
    rw [readForm_eq]
    simp only
    rw [Outcome.bind_of_done hitems]
    exact Bracket.build_rebase hb a _ _

/-- A form with a layout is read where the layout stands. -/
theorem Laid.reads {l : Layout} (h : Laid text l) : Reads text l.start l.piece l.stop := by
  have hread := h.reads_cut (Nat.zero_le _) h.bounds.2
  rw [cut_all, Piece.rebase_zero] at hread
  exact hread

end Cut

end LispXref.Reading
