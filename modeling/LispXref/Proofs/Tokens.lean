-- The table of symbol tokens that every top-level form comes with. Main statements: forms
-- and tokens are well placed, and each token reads back alone as its symbol; the table
-- lists the symbols of its form in their order, and none but those if no text properties
-- are written.
import LispXref.Proofs.Alone
import LispXref.Proofs.Mentions
import LispXref.Reading.SomeNames

namespace LispXref

open Reading

namespace Reading

/-! ## Top-level forms and their tokens -/

/-- A top-level form is well placed in a text, and so are its tokens, whose offsets count
from the start of the form. -/
structure Positioned.WellPlaced [CharacterNames] (text : Text) (p : Positioned) : Prop where
  start_nonneg : 0 ≤ p.span.start
  start_lt_stop : p.span.start < p.span.stop
  stop_le : p.span.stop ≤ text.length
  /-- No blank and no comment stands at the start, and nothing is closed there. -/
  begins : ∃ c, text[p.span.start.toNat]? = some c ∧ isBlank c = false ∧ c ≠ ';' ∧ isCloser c = false
  tokens_inside : ∀ o ∈ p.occurrences,
    0 < o.length ∧ (o.offset + o.length : Int) ≤ p.span.stop - p.span.start
  tokens_ordered : p.occurrences.Pairwise fun o o' => o.offset + o.length ≤ o'.offset
  /-- The text of a token is one form, its symbol. -/
  tokens_read : ∀ o ∈ p.occurrences,
    readAll (slice text (p.span.start + o.offset) (p.span.start + o.offset + o.length)) =
      .ok [⟨.symbol o.symbol, .ofNat 0 o.length, [⟨o.symbol, 0, o.length⟩]⟩]

variable {known : CharacterNames}

theorem Laid.begins {text : Text} {l : Layout} (h : Laid text l) :
    ∃ c, text[l.start]? = some c ∧ isBlank c = false ∧ c ≠ ';' ∧ isCloser c = false := by
  obtain ⟨x, n, hx, hp⟩ := h.reads
  obtain ⟨c, rest, hrest, hblank, hcomment, _, hlexeme⟩ := hx.lexemeAt
  refine ⟨c, ?_, hblank, hcomment, ?_⟩
  · rw [← List.head?_drop, hrest]
    rfl
  · cases hc : isCloser c with
    | false => rfl
    | true =>
      rw [lexemeAt_closer l.start hc rest] at hlexeme
      cases hlexeme
      exact absurd rfl ((begins_of_readForm hp).2 c)

/-- A symbol token is a form of its own. -/
theorem LexemeAt.reads_symbol {text : Text} {s e : Nat} {x : Symbol}
    (h : LexemeAt text s (.atom (.symbol x)) e) :
    readAll (slice text s e) = .ok [⟨.symbol x, .ofNat 0 (e - s), [⟨x, 0, e - s⟩]⟩] := by
  have hread : readAll (slice text s e) = .ok [⟨.symbol x, ⟨0, (e : Int) - s⟩, [⟨x, s - s, e - s⟩]⟩] :=
    (Laid.atom h).reads_alone
  have hspan : Span.ofNat 0 (e - s) = ⟨0, (e : Int) - s⟩ := by
    have := h.bounds.1
    simp only [Span.ofNat, Span.mk.injEq]
    omega
  rw [hread, Nat.sub_self, hspan]

theorem Laid.wellPlaced {text : Text} {l : Layout} (h : Laid text l) :
    l.positioned.WellPlaced text := by
  obtain ⟨hlt, hle⟩ := h.bounds
  have horder := h.inOrder_occurrences
  have hinside : ∀ o ∈ l.occurrences,
      l.start ≤ o.offset ∧ 0 < o.length ∧ o.offset + o.length ≤ l.stop := by
    intro o ho
    have hm := horder.mem (List.mem_map_of_mem ho)
    simp only [Occurrence.toMatch, Span.ofNat] at hm
    omega
  refine ⟨Int.natCast_nonneg _, Int.ofNat_lt.2 hlt, Int.ofNat_le.2 hle, h.begins, ?_, ?_, ?_⟩
  · intro o ho
    obtain ⟨o', ho', rfl⟩ := List.mem_map.1 ho
    have ho' := hinside o' ho'
    simp only [Layout.positioned, Positioned.ofPiece, Span.ofNat]
    omega
  · refine List.pairwise_map.2 ?_
    have hpairs := List.pairwise_map.1 horder.pairwise
    refine hpairs.imp_of_mem fun {o o'} ho ho' hle => ?_
    have ho := hinside o ho
    have ho' := hinside o' ho'
    simp only [Occurrence.toMatch, Span.ofNat] at hle
    simp only
    omega
  · intro o ho
    obtain ⟨o', ho', rfl⟩ := List.mem_map.1 ho
    have hread := (h.lexemeAt_of_mem_occurrences o' ho').reads_symbol
    rw [Nat.add_sub_cancel_left] at hread
    have hoffset : l.positioned.span.start + ((o'.offset - l.start : Nat) : Int) = o'.offset := by
      have ho' := hinside o' ho'
      simp only [Layout.positioned, Positioned.ofPiece, Span.ofNat]
      omega
    simp only [hoffset]
    exact hread

end Reading

section

variable {known : CharacterNames}

/-- Whatever is read from a text is well placed in it, the tokens included, and a form stops
before the next one starts. -/
theorem readAll_wellPlaced {text : Text} {forms : List Positioned} (h : readAll text = .ok forms) :
    (∀ p ∈ forms, p.WellPlaced text) ∧ forms.Pairwise fun p p' => p.span.stop ≤ p'.span.start := by
  obtain ⟨ls, hall, hrow, rfl⟩ := exists_row_of_readAll h
  constructor
  · intro p hp
    obtain ⟨l, hl, rfl⟩ := List.mem_map.1 hp
    exact (hall l hl).wellPlaced
  · have hwhole : ∀ l ∈ ls, InOrder l.start [⟨l.span, l.form⟩] l.stop := fun l hl =>
      ⟨Int.le_refl _, Int.ofNat_lt.2 (hall l hl).bounds.1, Int.le_refl _⟩
    have horder := hrow.inOrder hwhole
    rw [← List.map_eq_flatMap] at horder
    exact List.pairwise_map.2 (List.pairwise_map.1 horder.pairwise)

end

open SomeNames

theorem readAll_wellPlaced_tokens :
    let text := Text.of " (a\\ b #:c) ;x\n##"
    ∃ forms, readAll text = .ok forms ∧ (∀ p ∈ forms, p.WellPlaced text) ∧
      (forms.map fun p => (p.span, p.occurrences)) =
        [(.ofNat 1 11, [⟨.named "a b", 1, 4⟩, ⟨⟨Text.of "c", false⟩, 6, 3⟩]),
          (.ofNat 15 17, [⟨.named "", 0, 2⟩])] := by
  intro text
  have hread : readAll text =
      .ok [⟨.list [.symbol (.named "a b"), .symbol ⟨Text.of "c", false⟩], .ofNat 1 11,
          [⟨.named "a b", 1, 4⟩, ⟨⟨Text.of "c", false⟩, 6, 3⟩]⟩,
        ⟨.symbol (.named ""), .ofNat 15 17, [⟨.named "", 0, 2⟩]⟩] := by decide +kernel
  exact ⟨_, hread, (readAll_wellPlaced hread).1, rfl⟩

/-! ## Symbols and tokens, one by one -/

/-- How text properties begin. -/
def propertiesMark : Text := Text.of "#("

namespace Reading

variable {known : CharacterNames}

/-- Text properties are written where they are read. -/
theorem LexemeAt.propertiesMark_infix {text : Text} {s q : Nat}
    (h : LexemeAt text s (.opener .propertied) q) : propertiesMark <:+: text := by
  have hdrop : text.drop s = propertiesMark ++ text.drop q := h.spelled.1
  have hmark : propertiesMark <:+: text.drop s := hdrop ▸ (List.prefix_append _ _).isInfix
  exact hmark.trans (List.drop_suffix s text).isInfix

/-- The tokens of forms in a row are the spelled symbols if those of each form are. -/
theorem Layout.symbols_eq_flatMap {ls : List Layout}
    (h : ∀ l ∈ ls, l.form.symbols.filter Symbol.isSpelled = l.spelledTokens) :
    ((ls.map form).flatMap Form.symbols).filter Symbol.isSpelled =
      ((ls.flatMap occurrences).map Occurrence.symbol).filter Symbol.isSpelled := by
  induction ls with
  | nil => rfl
  | cons l ls ih =>
    simp only [List.map_cons, List.flatMap_cons, List.map_append, List.filter_append]
    rw [h l List.mem_cons_self, ih fun l' hl' => h l' (List.mem_cons_of_mem _ hl')]
    rfl

/-- A compound has the symbols that stand between its brackets. -/
theorem Bracket.symbols_eq {b : Bracket} {items : List Form} {tail : Option Form} {f : Form}
    (h : b.form? items tail = some f) (hb : b ≠ .propertied) (ht : b ≠ .list → tail = none) :
    f.symbols = (items ++ tail.toList).flatMap Form.symbols := by
  rw [List.flatMap_append, ← Form.symbolsAmong_eq]
  cases b with
  | list =>
    cases tail with
    | none =>
      cases h
      simp [Form.symbols]
    | some t =>
      cases h
      simp [Form.symbols]
  | vector kind =>
    cases h
    have hnone : tail = none := ht (by simp)
    simp [hnone, Form.symbols]
  | propertied => exact absurd rfl hb

/-- Without text properties, the tokens are the symbols of the form, in the same order. Only
the symbols that marks stand for have no tokens. -/
theorem Laid.symbols_eq {text : Text} {l : Layout} (h : Laid text l)
    (hmark : ¬ propertiesMark <:+: text) :
    l.form.symbols.filter Symbol.isSpelled = l.spelledTokens := by
  induction h with
  | @atom s e f hx =>
    cases f with
    | list items | dotted items tail | vector kind items => cases hx.spelled
    | _ => rfl
  | @shorthand s q m inner hx hg hi ih =>
    have hhead : m.head.isSpelled = false := by cases m <;> decide
    have hsymbols : (m.apply inner.form).symbols = m.head :: inner.form.symbols := by
      simp [Shorthand.apply, Form.symbols, Form.symbolsAmong]
    show (m.apply inner.form).symbols.filter Symbol.isSpelled = inner.spelledTokens
    rw [hsymbols, List.filter_cons, hhead]
    exact ih
  | @bracket s q e b items tail p hx hin hfirst hall hb ih =>
    obtain ⟨hf, ho, _⟩ := Bracket.build_eq_done.1 hb
    have hne : b ≠ .propertied := by
      rintro rfl
      exact hmark hx.propertiesMark_infix
    have hforms : items.map Layout.form ++ (tail.map Layout.form).toList =
        (items ++ tail.toList).map Layout.form := by
      cases tail <;> simp
    have htail : b ≠ .list → tail.map Layout.form = none := fun hl => by
      rw [hin.tail_eq_none hl]
      rfl
    have hsymbols := Bracket.symbols_eq hf hne htail
    simp only [Contents.ofLayouts, hforms] at hsymbols
    show p.form.symbols.filter Symbol.isSpelled =
      (p.occurrences.map Occurrence.symbol).filter Symbol.isSpelled
    rw [ho, hsymbols]
    exact Layout.symbols_eq_flatMap ih

theorem Layout.map_symbol_positioned (l : Layout) :
    l.positioned.occurrences.map Occurrence.symbol = l.occurrences.map Occurrence.symbol := by
  unfold positioned Positioned.ofPiece
  rw [List.map_map]
  rfl

end Reading

section

variable {known : CharacterNames}

/-- The table of a form lists the symbols of the form in their order, those aside that a mark
stands for. It lists more only if text properties are written, whose symbols are not kept in
the form. -/
theorem symbols_sublist_occurrences {text : Text} {forms : List Positioned}
    (h : readAll text = .ok forms) {p : Positioned} (hp : p ∈ forms) :
    (p.form.symbols.filter Symbol.isSpelled).Sublist
        ((p.occurrences.map Occurrence.symbol).filter Symbol.isSpelled) ∧
      (¬ propertiesMark <:+: text →
        p.form.symbols.filter Symbol.isSpelled =
          (p.occurrences.map Occurrence.symbol).filter Symbol.isSpelled) := by
  obtain ⟨ls, hall, _, rfl⟩ := exists_row_of_readAll h
  obtain ⟨l, hl, rfl⟩ := List.mem_map.1 hp
  rw [l.map_symbol_positioned]
  exact ⟨(hall l hl).symbols_sublist, (hall l hl).symbols_eq⟩

end

theorem symbols_sublist_occurrences_dotted :
    let text := Text.of "('a [b #'c] . d)"
    ∃ p, readAll text = .ok [p] ∧ p.form.symbols = [.named "quote", .named "a", .named "b",
        .named "function", .named "c", .named "d"] ∧ ¬ propertiesMark <:+: text ∧
      p.form.symbols.filter Symbol.isSpelled =
        (p.occurrences.map Occurrence.symbol).filter Symbol.isSpelled := by
  intro text
  have hread : readAll text = .ok [⟨.dotted [.quoted (.symbol (.named "a")),
      .vector .plain [.symbol (.named "b"), Shorthand.function.apply (.symbol (.named "c"))]]
      (.symbol (.named "d")), .ofNat 0 16,
      [⟨.named "a", 2, 1⟩, ⟨.named "b", 5, 1⟩, ⟨.named "c", 9, 1⟩, ⟨.named "d", 14, 1⟩]⟩] := by
    decide +kernel
  have hmark : ¬ propertiesMark <:+: text := by decide +kernel
  exact ⟨_, hread, rfl, hmark, (symbols_sublist_occurrences hread List.mem_cons_self).2 hmark⟩

end LispXref
