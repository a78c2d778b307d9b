-- Reading does not depend on what stands around a form. Main statement: the text of
-- a form, taken alone, reads back as exactly that form, and so does the text of every
-- match.
import LispXref.Proofs.Matches
import LispXref.Reading.SomeNames

namespace LispXref

open Reading

namespace Reading

/-! ## Texts of one form -/

variable {known : CharacterNames}

theorem Reads.nextForm {text : Text} {q s e : Nat} {p : Piece} (h : Reads text s p e)
    (hg : Gap text q s) :
    nextForm (.ofText text q) = .done (some (.ofPiece s e p)) (.ofText text e) := by
  obtain ⟨x, n, hx, hp⟩ := h
  unfold Reading.nextForm
  rw [hg.lex_eq, Outcome.bind_of_done hx]
  simp only
  rw [Outcome.bind_of_done hp]
  rfl

theorem readForms_of_some {cur next : Cursor} {p : Positioned} {ps : List Positioned}
    (h : nextForm cur = .done (some p) next) (hr : readForms next = .ok ps) :
    readForms cur = .ok (p :: ps) := by
  rw [readForms.eq_def]
  split
  · rename_i h'
    rw [h] at h'
    cases h'
    rw [hr]
  all_goals
    rename_i h'
    rw [h] at h'
    cases h'

theorem readForms_end {cur : Cursor} (h : cur.rest = []) : readForms cur = .ok [] := by
  have hnext : nextForm cur = .done none cur := by
    rw [nextForm_eq, Outcome.bind_of_done (skipBlanks_end h), if_pos h]
  rw [readForms.eq_def]
  split
  · rename_i h'
    rw [hnext] at h'
    cases h'
  · rfl
  · rfl
  · rename_i h'
    rw [hnext] at h'
    cases h'

/-- A text that is all one form. -/
theorem readAll_of_reads {text : Text} {p : Piece} (h : Reads text 0 p text.length) :
    readAll text = .ok [.ofPiece 0 text.length p] := by
  obtain ⟨x, n, hx, _⟩ := id h
  obtain ⟨_, _, _, _, _, hg, _⟩ := hx.lexemeAt
  have hend : readForms (.ofText text text.length) = .ok [] :=
    readForms_end List.drop_length
  have hforms : readForms ⟨0, text⟩ = .ok [.ofPiece 0 text.length p] :=
    readForms_of_some (h.nextForm hg) hend
  rw [readAll, hforms]

/-- A text that is one atom. -/
theorem readAll_of_lexemeAt {c : CodePoint} {rest : Text} {f : Form} (hb : isBlank c = false)
    (hs : c ≠ ';') (h : lexemeAt 0 c rest = .done (.atom f) ⟨(c :: rest).length, []⟩) :
    readAll (c :: rest) =
      .ok [.ofPiece 0 (c :: rest).length (.ofAtom 0 (c :: rest).length f)] := by
  have hlex : LexemeAt (c :: rest) 0 (.atom f) (c :: rest).length := by
    refine .of_lexemeAt rfl hb hs ?_
    rw [h, Cursor.ofText, List.drop_length]
  exact readAll_of_reads hlex.reads_atom

/-- A text whose first lexeme is faulty. -/
theorem readAll_of_lexemeAt_failed {c : CodePoint} {rest : Text} {fault : Fault} {stop : Nat}
    (hskip : skipBlanks ⟨0, c :: rest⟩ = .done () ⟨0, c :: rest⟩)
    (h : lexemeAt 0 c rest = .failed fault stop) : readAll (c :: rest) = .error fault := by
  have hlex : lex ⟨0, c :: rest⟩ = .failed fault stop := by
    rw [lex, Outcome.bind_of_done hskip]
    dsimp only
    rw [h]
    rfl
  have hnext : nextForm ⟨0, c :: rest⟩ = .failed fault stop := Outcome.bind_of_failed hlex _
  rw [readAll, readForms.eq_def, hnext]

/-- The text of a form with a layout reads back as the form. -/
theorem Laid.reads_alone {text : Text} {l : Layout} (h : Laid text l) :
    readAll (slice text l.span.start l.span.stop) =
      .ok [⟨l.form, ⟨0, l.span.stop - l.span.start⟩, l.positioned.occurrences⟩] := by
  obtain ⟨hlt, hle⟩ := h.bounds
  have hslice : slice text l.span.start l.span.stop = cut text l.start l.stop :=
    slice_natCast text (Nat.le_trans (Nat.le_of_lt hlt) hle) hle
  have hlen : (cut text l.start l.stop).length = l.stop - l.start := length_cut hle
  have hread := h.reads_cut (Nat.le_refl l.start) (Nat.le_refl l.stop)
  rw [Nat.sub_self, ← hlen] at hread
  -- Counting from the start of the form is what a top-level form does anyway.
  have hspan : Span.ofNat 0 (l.stop - l.start) = ⟨0, l.span.stop - l.span.start⟩ := by
    simp only [Span.ofNat, Layout.span, Span.mk.injEq]
    omega
  have hrebase : Positioned.ofPiece 0 (l.stop - l.start) (l.piece.rebase l.start) =
      ⟨l.form, ⟨0, l.span.stop - l.span.start⟩, l.positioned.occurrences⟩ := by
    rw [Positioned.ofPiece, hspan]
    exact congrArg (Positioned.mk _ _) (List.map_id _)
  rw [hslice, readAll_of_reads hread, hlen, hrebase]

/-! ## Matches -/

/-- A symbol token is a lexeme of the text. -/
theorem Laid.lexemeAt_of_mem_occurrences {text : Text} {l : Layout} (h : Laid text l) :
    ∀ o ∈ l.occurrences, LexemeAt text o.offset (.atom (.symbol o.symbol)) (o.offset + o.length) := by
  induction h with
  | @atom s e f hx =>
    intro o ho
    cases f with
    | symbol x =>
      cases List.mem_singleton.1 ho
      have hlt := hx.bounds.1
      rw [show s + (e - s) = e by omega]
      exact hx
    | _ => cases ho
  | shorthand hx hg hi ih => exact ih
  | @bracket s q e b items tail p hx hin hfirst hall hb ih =>
    intro o (ho : o ∈ p.occurrences)
    rw [(Bracket.build_eq_done.1 hb).2.1] at ho
    obtain ⟨l', hl', ho'⟩ := List.mem_flatMap.1 ho
    exact ih l' hl' o ho'

theorem Layout.mem_of_mem_foundAmong {accepts : Form → Path → Bool} {ls : List Layout} {path : Path}
    {operator : Option Symbol} {index : Nat} {m : Match}
    (h : m ∈ foundAmong accepts path operator index ls) :
    ∃ l ∈ ls, ∃ path', m ∈ l.found accepts path' := by
  induction ls generalizing index with
  | nil => cases h
  | cons l ls ih =>
    rw [foundAmong, List.mem_append] at h
    rcases h with h | h
    · exact ⟨l, List.mem_cons_self, _, h⟩
    · obtain ⟨l', hl', path', h'⟩ := ih h
      exact ⟨l', List.mem_cons_of_mem _ hl', path', h'⟩

/-- What is found in a form is accepted, and it has a layout or is a mark. -/
theorem Laid.exists_of_mem_found {text : Text} {l : Layout} (h : Laid text l)
    (accepts : Form → Path → Bool) :
    ∀ path, ∀ m ∈ l.found accepts path, ∃ l' path', m = ⟨l'.span, l'.form⟩ ∧
      accepts l'.form path' = true ∧ (Laid text l' ∨ ∃ s : Shorthand, l'.form = .symbol s.head) := by
  refine h.induction_on_parts (P := fun l => ∀ path, ∀ m ∈ l.found accepts path, ∃ l' path',
    m = ⟨l'.span, l'.form⟩ ∧ accepts l'.form path' = true ∧
      (Laid text l' ∨ ∃ s : Shorthand, l'.form = .symbol s.head)) ?_ ?_
  · intro s start q hx path m hm
    rw [Layout.found_eq] at hm
    split at hm
    · rename_i hacc
      exact ⟨_, path, List.mem_singleton.1 hm, hacc, .inr ⟨s, rfl⟩⟩
    · cases hm
  · intro l hl hparts path m hm
    rw [Layout.found_eq] at hm
    split at hm
    · rename_i hacc
      exact ⟨l, path, List.mem_singleton.1 hm, hacc, .inl hl⟩
    · split at hm
      · obtain ⟨l', hl', path', hm'⟩ := Layout.mem_of_mem_foundAmong hm
        exact hparts l' hl' path' m hm'
      · cases hm

end Reading

/-- Only the rule for variables accepts a symbol, and only the target. -/
theorem Kind.accepts_symbol {kind : Kind} {rule : Rule} (h : kind.rule = .ok rule)
    {target s : Symbol} {path : Path} (ha : rule target (.symbol s) path = true) :
    kind = .variableUse ∧ s = target := by
  cases kind with
  | function | macroCall | specialForm =>
    cases h
    cases ha
  | variableUse =>
    cases h
    rw [isVariableReference, Bool.and_eq_true, Form.isSymbol_iff] at ha
    cases ha.1
    exact ⟨rfl, rfl⟩
  | symbol => cases h

section

variable {known : CharacterNames}

/-- Every match has a layout, unless the target is the symbol of a mark. -/
theorem exists_laid_of_mem_searchText {text : Text} {target : Symbol} {kind : Kind}
    {ms : List Match} {m : Match} (h : searchText target kind text = .ok ms) (hm : m ∈ ms)
    (ht : kind = .variableUse → ∀ s : Shorthand, s.head ≠ target) :
    ∃ l, Laid text l ∧ m = ⟨l.span, l.form⟩ := by
  obtain ⟨ls, hall, _, rfl⟩ := exists_row_of_searchText h
  obtain ⟨l, hl, hm⟩ := List.mem_flatMap.1 hm
  unfold Layout.matchesOf at hm
  split at hm
  · rename_i rule hk
    obtain ⟨l', path, rfl, hacc, hl' | ⟨s, hs⟩⟩ := (hall l hl).exists_of_mem_found _ _ m hm
    · exact ⟨l', hl', rfl⟩
    · rw [hs] at hacc
      obtain ⟨hkind, htarget⟩ := Kind.accepts_symbol hk hacc
      exact absurd htarget (ht hkind s)
  · obtain ⟨o, ho, rfl⟩ := List.mem_map.1 hm
    have hx := (hall l hl).lexemeAt_of_mem_occurrences o (List.mem_filter.1 ho).1
    exact ⟨_, .atom hx, rfl⟩

/-- The text of a form reads back alone as exactly that form, a top-level form with its
table of symbol tokens. This holds for all located forms but the marks of shorthands, and
for every match but the marks that a search for their own symbol finds. -/
theorem readAll_slice (text : Text) :
    (∀ f span, Located text f span → (∀ s : Shorthand, slice text span.start span.stop ≠ s.mark) →
      ∃ occurrences, readAll (slice text span.start span.stop) =
        .ok [⟨f, ⟨0, span.stop - span.start⟩, occurrences⟩]) ∧
    (∀ forms p, readAll text = .ok forms → p ∈ forms →
      readAll (slice text p.span.start p.span.stop) =
        .ok [⟨p.form, ⟨0, p.span.stop - p.span.start⟩, p.occurrences⟩]) ∧
    ∀ target kind ms m, searchText target kind text = .ok ms → m ∈ ms →
      (kind = .variableUse → ∀ s : Shorthand, s.head ≠ target) →
      ∃ occurrences, readAll (slice text m.span.start m.span.stop) =
        .ok [⟨m.form, ⟨0, m.span.stop - m.span.start⟩, occurrences⟩] := by
  refine ⟨?_, ?_, ?_⟩
  · intro f span h hmark
    rcases h.laid_or_mark with ⟨l, hl, rfl, rfl⟩ | ⟨_, s, hs⟩
    · exact ⟨_, hl.reads_alone⟩
    · exact absurd hs (hmark s)
  · intro forms p h hp
    obtain ⟨ls, hall, _, rfl⟩ := exists_row_of_readAll h
    obtain ⟨l, hl, rfl⟩ := List.mem_map.1 hp
    exact (hall l hl).reads_alone
  · intro target kind ms m h hm ht
    obtain ⟨l, hl, rfl⟩ := exists_laid_of_mem_searchText h hm ht
    exact ⟨_, hl.reads_alone⟩

end

open SomeNames

theorem readAll_slice_quoted_symbol :
    (∃ occurrences, readAll (slice (Text.of "(a 'b)") 3 5) =
      .ok [⟨.quoted (.symbol (.named "b")), ⟨0, 5 - 3⟩, occurrences⟩]) ∧
    ∃ occurrences, readAll (slice (Text.of "(a 'b)") 4 5) =
      .ok [⟨.symbol (.named "b"), ⟨0, 5 - 4⟩, occurrences⟩] := by
  have hread : readAll (Text.of "(a 'b)") =
      .ok [⟨.list [.symbol (.named "a"), .quoted (.symbol (.named "b"))], .ofNat 0 6,
        [⟨.named "a", 1, 1⟩, ⟨.named "b", 4, 1⟩]⟩] := by decide +kernel
  have hspans : childSpans (Text.of "(a 'b)") (.ofNat 0 6) = .ok [.ofNat 1 2, .ofNat 3 5] := by
    decide +kernel
  have hquoted : Located (Text.of "(a 'b)") (.quoted (.symbol (.named "b"))) (.ofNat 3 5) :=
    .child (i := 1) (.top hread (List.mem_singleton.2 rfl)) hspans rfl rfl
  have hmark : ∀ s : Shorthand, slice (Text.of "(a 'b)") 3 5 ≠ s.mark := by
    intro s
    cases s <;> decide
  have hsearch : searchText (.named "b") .variableUse (Text.of "(a 'b)") =
      .ok [⟨.ofNat 4 5, .symbol (.named "b")⟩] := by decide +kernel
  have hhead : ∀ s : Shorthand, s.head ≠ .named "b" := by
    intro s
    cases s <;> decide
  obtain ⟨hlocated, _, hmatch⟩ := readAll_slice (Text.of "(a 'b)")
  exact ⟨hlocated _ _ hquoted hmark, hmatch _ _ _ _ hsearch (List.mem_singleton.2 rfl) fun _ => hhead⟩

end LispXref
