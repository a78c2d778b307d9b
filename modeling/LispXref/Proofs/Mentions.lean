-- The symbols in a form, and the symbol tokens in its text. Every symbol of a form has
-- a token, except those that a shorthand mark stands for. Main statements: a search may
-- pass over the forms without a token of its target, and what it finds depends on the
-- forms and not on how they are written.
import LispXref.Proofs.Matches
import LispXref.Reading.SomeNames
import Mathlib.Data.List.Basic

namespace LispXref

open Reading

/-! ## Symbols in a form -/

mutual

/-- The symbols in a form, in the order of the text; that of a tail comes last. -/
def Form.symbols : Form → List Symbol
  | .symbol s => [s]
  | .list items | .vector _ items => symbolsAmong items
  | .dotted items tail => symbolsAmong items ++ tail.symbols
  | _ => []

/-- The symbols in forms, one form after the other. -/
def Form.symbolsAmong : List Form → List Symbol
  | [] => []
  | f :: fs => f.symbols ++ symbolsAmong fs

end

theorem Form.symbolsAmong_eq (fs : List Form) : symbolsAmong fs = fs.flatMap symbols := by
  induction fs with
  | nil => rfl
  | cons f fs ih => rw [symbolsAmong, ih, List.flatMap_cons]

theorem Form.symbols_subset_of_mem_listItems {f g : Form} (h : g ∈ f.listItems) :
    g.symbols ⊆ f.symbols := by
  intro s hs
  have hitems : s ∈ symbolsAmong f.listItems := by
    rw [symbolsAmong_eq]
    exact List.mem_flatMap.2 ⟨g, h, hs⟩
  cases f with
  | list items => exact hitems
  | dotted items tail => exact List.mem_append_left _ hitems
  | _ => cases h

mutual

/-- A place in a form has no symbols but those of the form. -/
theorem Form.symbols_subset_of_mem_places {f : Form} {path : Path} {above : List (Form × Path)}
    {p : Place} (h : p ∈ f.places path above) : p.form.symbols ⊆ f.symbols := by
  cases f with
  | list items | vector kind items =>
    rw [places, List.mem_cons] at h
    rcases h with rfl | h
    · exact List.Subset.refl _
    · exact symbols_subset_of_mem_placesAmong h
  | _ =>
    cases List.mem_singleton.1 h
    exact List.Subset.refl _

theorem Form.symbols_subset_of_mem_placesAmong {fs : List Form} {path : Path}
    {above : List (Form × Path)} {operator : Option Symbol} {index : Nat} {p : Place}
    (h : p ∈ placesAmong path above operator index fs) : p.form.symbols ⊆ symbolsAmong fs := by
  cases fs with
  | nil => cases h
  | cons f fs =>
    rw [placesAmong, List.mem_append] at h
    intro s hs
    rw [symbolsAmong, List.mem_append]
    rcases h with h | h
    · exact .inl (symbols_subset_of_mem_places h hs)
    · exact .inr (symbols_subset_of_mem_placesAmong h hs)

end

/-! ## Symbols and tokens -/

/-- No mark stands for the symbol, so it is read only where it is written out. -/
def Symbol.isSpelled (s : Symbol) : Bool := (Shorthand.ofHead? s).isNone

theorem Symbol.isSpelled_iff {s : Symbol} : s.isSpelled = true ↔ ∀ m : Shorthand, m.head ≠ s := by
  rw [isSpelled, Option.isNone_iff_eq_none, Shorthand.ofHead?, List.find?_eq_none]
  constructor
  · intro h m
    have hm : m ∈ Shorthand.all := by cases m <;> decide
    simpa using h m hm
  · intro h m _
    simpa using h m

namespace Reading

/-- The symbol tokens of a layout that are spelled out. -/
def Layout.spelledTokens (l : Layout) : List Symbol :=
  (l.occurrences.map Occurrence.symbol).filter Symbol.isSpelled

/-- The spelled symbols of forms in a row have tokens if those of each form have. -/
theorem Layout.symbols_sublist_flatMap {ls : List Layout}
    (h : ∀ l ∈ ls, (l.form.symbols.filter Symbol.isSpelled).Sublist l.spelledTokens) :
    (((ls.map form).flatMap Form.symbols).filter Symbol.isSpelled).Sublist
      (((ls.flatMap occurrences).map Occurrence.symbol).filter Symbol.isSpelled) := by
  induction ls with
  | nil => exact List.Sublist.slnil
  | cons l ls ih =>
    simp only [List.map_cons, List.flatMap_cons, List.map_append, List.filter_append]
    apply List.Sublist.append
    · exact h l List.mem_cons_self
    · exact ih fun l' hl' => h l' (List.mem_cons_of_mem _ hl')

/-- What a bracket makes has no symbols but those between the brackets. Text properties
lose theirs. -/
theorem Bracket.symbols_sublist {b : Bracket} {items : List Form} {tail : Option Form} {f : Form}
    (h : b.form? items tail = some f) :
    f.symbols.Sublist ((items ++ tail.toList).flatMap Form.symbols) := by
  rw [List.flatMap_append, ← Form.symbolsAmong_eq]
  cases b with
  | list =>
    cases tail with
    | none =>
      cases h
      simp [Form.symbols]
    | some t =>
      cases h
      simp [Form.symbols]
  | vector kind =>
    cases h
    exact List.sublist_append_left _ _
  | propertied =>
    cases items with
    | nil => cases h
    | cons g items =>
      cases g with
      | string value =>
        cases h
        exact List.nil_sublist _
      | _ => cases h

variable {known : CharacterNames}

/-- Every symbol of a form has a token, in the same order, unless a mark stands for it.
There may be more tokens: text properties are dropped from the form, but not from the
table. -/
theorem Laid.symbols_sublist {text : Text} {l : Layout} (h : Laid text l) :
    (l.form.symbols.filter Symbol.isSpelled).Sublist l.spelledTokens := by
  induction h with
  | @atom s e f hx =>
    cases f with
    | list items | dotted items tail | vector kind items => cases hx.spelled
    | symbol x => exact List.Sublist.refl _
    | _ => exact List.nil_sublist _
  | @shorthand s q m inner hx hg hi ih =>
    have hmark : m.head.isSpelled = false := by cases m <;> decide
    have hsymbols : (m.apply inner.form).symbols = m.head :: inner.form.symbols := by
      simp [Shorthand.apply, Form.symbols, Form.symbolsAmong]
    show ((m.apply inner.form).symbols.filter Symbol.isSpelled).Sublist inner.spelledTokens
    rw [hsymbols, List.filter_cons, hmark]
    exact ih
  | @bracket s q e b items tail p hx hin hfirst hall hb ih =>
    obtain ⟨hf, ho, _⟩ := Bracket.build_eq_done.1 hb
    have hforms : items.map Layout.form ++ (tail.map Layout.form).toList =
        (items ++ tail.toList).map Layout.form := by
      cases tail <;> simp
    have hkept := (Bracket.symbols_sublist hf).filter Symbol.isSpelled
    simp only [Contents.ofLayouts, hforms] at hkept
    show (p.form.symbols.filter Symbol.isSpelled).Sublist
      ((p.occurrences.map Occurrence.symbol).filter Symbol.isSpelled)
    rw [ho]
    exact hkept.trans (Layout.symbols_sublist_flatMap ih)

/-- A symbol of a form has a token, unless a mark stands for the symbol. -/
theorem Laid.exists_occurrence {text : Text} {l : Layout} (h : Laid text l) {target : Symbol}
    (ht : ∀ m : Shorthand, m.head ≠ target) (hs : target ∈ l.form.symbols) :
    ∃ o ∈ l.occurrences, o.symbol = target := by
  have hmem : target ∈ l.form.symbols.filter Symbol.isSpelled :=
    List.mem_filter.2 ⟨hs, Symbol.isSpelled_iff.2 ht⟩
  exact List.mem_map.1 (List.mem_filter.1 (h.symbols_sublist.subset hmem)).1

/-- A form mentions the symbols of its tokens. -/
theorem Layout.mentions_of_mem_occurrences {l : Layout} {o : Occurrence} (ho : o ∈ l.occurrences) :
    l.positioned.mentions o.symbol = true := by
  unfold Positioned.mentions positioned Positioned.ofPiece
  simp only [List.any_map, List.any_eq_true]
  exact ⟨o, ho, by simp⟩

/-- A form mentions every symbol in it, unless a mark stands for the symbol. -/
theorem Laid.mentions {text : Text} {l : Layout} (h : Laid text l) {target : Symbol}
    (ht : ∀ m : Shorthand, m.head ≠ target) (hs : target ∈ l.form.symbols) :
    l.positioned.mentions target = true := by
  obtain ⟨o, ho, rfl⟩ := h.exists_occurrence ht hs
  exact Layout.mentions_of_mem_occurrences ho

end Reading

/-! ## Rules and symbols -/

theorem Form.mem_symbols_of_isSymbol {target : Symbol} {f : Form} (h : f.isSymbol target = true) :
    target ∈ f.symbols := by
  rw [isSymbol_iff.1 h]
  exact List.mem_singleton.2 rfl

theorem Form.mem_symbols_of_isQuoted {target : Symbol} {f : Form} (h : f.isQuoted target = true) :
    target ∈ f.symbols := by
  unfold isQuoted at h
  split at h
  · simp only [Bool.and_eq_true, decide_eq_true_eq] at h
    simp [symbols, symbolsAmong, h.2]
  · cases h

theorem mem_symbols_of_isFunctionReference {target : Symbol} {f : Form} {path : Path}
    (h : isFunctionReference target f path = true) : target ∈ f.symbols := by
  unfold isFunctionReference at h
  split at h
  · cases h
  · rename_i head arguments hitems
    have hitem : ∀ g ∈ head :: arguments, target ∈ g.symbols → target ∈ f.symbols := by
      intro g hg hs
      rw [← hitems] at hg
      exact Form.symbols_subset_of_mem_listItems hg hs
    split at h
    · cases h
    · split at h
      · rename_i hhead
        exact hitem head List.mem_cons_self (Form.mem_symbols_of_isSymbol hhead)
      · split at h
        · cases h
        · rename_i first others
          have hfirst : first ∈ head :: first :: others := by simp
          apply hitem first hfirst
          split at h
          · exact Form.mem_symbols_of_isQuoted h
          · simp only [Bool.and_eq_true] at h
            exact Form.mem_symbols_of_isSymbol h.1.2

theorem mem_symbols_of_isCall {target : Symbol} {f : Form} {path : Path}
    (h : isCall target f path = true) : target ∈ f.symbols := by
  unfold isCall Form.operator? at h
  simp only [Bool.and_eq_true, decide_eq_true_eq] at h
  obtain ⟨hop, _⟩ := h
  split at hop
  · rename_i s others hitems
    cases hop
    apply Form.symbols_subset_of_mem_listItems (g := .symbol target)
    · rw [hitems]
      exact List.mem_cons_self
    · exact List.mem_singleton.2 rfl
  · cases hop

/-- Only the kind of tokens has no rule. -/
theorem Kind.exists_rule {kind : Kind} (h : kind ≠ .symbol) : ∃ rule, kind.rule = .ok rule := by
  cases kind with
  | symbol => exact absurd rfl h
  | _ => exact ⟨_, rfl⟩

/-- Whatever the rule of a kind accepts holds the target. -/
theorem Kind.mem_symbols_of_accepts {kind : Kind} {rule : Rule} (hk : kind.rule = .ok rule)
    {target : Symbol} {f : Form} {path : Path} (h : rule target f path = true) :
    target ∈ f.symbols := by
  cases kind with
  | function =>
    cases hk
    exact mem_symbols_of_isFunctionReference h
  | macroCall | specialForm =>
    cases hk
    exact mem_symbols_of_isCall h
  | variableUse =>
    cases hk
    unfold isVariableReference at h
    rw [Bool.and_eq_true] at h
    exact Form.mem_symbols_of_isSymbol h.1
  | symbol => cases hk

/-! ## Matched forms -/

/-- The outermost accepted forms in a top-level form. -/
def Form.outermost (accepts : Form → Path → Bool) (f : Form) : List Form :=
  ((f.places [] []).filter (·.isOutermost accepts)).map Place.form

theorem Form.outermost_eq_nil {kind : Kind} {rule : Rule} (hk : kind.rule = .ok rule)
    {target : Symbol} {f : Form} (h : target ∉ f.symbols) : f.outermost (rule target) = [] := by
  unfold outermost
  rw [List.map_eq_nil_iff, List.filter_eq_nil_iff]
  intro p hp ho
  unfold Place.isOutermost at ho
  rw [Bool.and_eq_true] at ho
  exact h (symbols_subset_of_mem_places hp (Kind.mem_symbols_of_accepts hk ho.1))

namespace Reading

variable {known : CharacterNames}

/-- The forms that are found do not depend on where they stand. -/
theorem Laid.map_form_found {text : Text} {l : Layout} (h : Laid text l)
    (accepts : Form → Path → Bool) :
    (l.found accepts []).map Match.form = l.form.outermost accepts := by
  have hnone : ∀ a ∈ ([] : List (Form × Path)), accepts a.1 a.2 = false := fun _ ha => nomatch ha
  unfold Form.outermost
  rw [Layout.found_eq_outermost hnone l, ← h.nodes_places, List.filter_map, List.map_map, List.map_map]
  rfl

/-- In a form that does not mention the target, nothing is accepted. -/
theorem Laid.outermost_eq_nil {text : Text} {l : Layout} (h : Laid text l) {kind : Kind}
    {rule : Rule} (hk : kind.rule = .ok rule) {target : Symbol}
    (ht : ∀ m : Shorthand, m.head ≠ target) (hm : l.positioned.mentions target = false) :
    l.form.outermost (rule target) = [] := by
  apply Form.outermost_eq_nil hk
  intro hs
  rw [h.mentions ht hs] at hm
  cases hm

theorem Layout.matchesOf_eq {kind : Kind} {rule : Rule} (hk : kind.rule = .ok rule)
    (target : Symbol) (l : Layout) : l.matchesOf target kind = l.found (rule target) [] := by
  unfold matchesOf
  rw [hk]

end Reading

/-! ## Forms that do not mention the target -/

theorem flatMap_filter {α β : Type} (p : α → Bool) (f : α → List β) (xs : List α) :
    (xs.filter p).flatMap f = xs.flatMap fun x => if p x then f x else [] := by
  induction xs with
  | nil => rfl
  | cons x xs ih => by_cases h : p x = true <;> simp [h, ih]

section

variable {known : CharacterNames}

/-- A text that can be read can be searched, for every target and kind. The matches are
those of the forms that mention the target. -/
theorem searchText_of_row {text : Text} {ls : List Layout}
    (h : readAll text = .ok (ls.map Layout.positioned)) (hall : ∀ l ∈ ls, Laid text l)
    (target : Symbol) (kind : Kind) :
    searchText target kind text = .ok (ls.flatMap fun l =>
      if l.positioned.mentions target then l.matchesOf target kind else []) := by
  unfold searchText
  rw [h]
  simp only
  rw [List.filter_map, matchesIn_eq target kind fun l hl => hall l (List.mem_filter.1 hl).1,
    flatMap_filter]
  rfl

/-- Only forms that mention the target are walked, and nothing is lost: walking every
form of the text finds the same matches. The target is not the symbol of a mark. -/
theorem searchText_eq_walkAll {text : Text} {forms : List Positioned} {target : Symbol}
    {kind : Kind} {rule : Rule} (h : readAll text = .ok forms) (hk : kind.rule = .ok rule)
    (ht : ∀ m : Shorthand, m.head ≠ target) :
    ∃ ms, searchText target kind text = .ok ms ∧ walkAll text target rule forms = .ok ms := by
  obtain ⟨ls, hall, _, rfl⟩ := exists_row_of_readAll h
  refine ⟨_, searchText_of_row h hall target kind, ?_⟩
  rw [walkAll_eq (Kind.rejectsOtherAtoms hk target) hall]
  congr 1
  apply List.flatMap_congr
  intro l hl
  rw [Layout.matchesOf_eq hk]
  split
  · rfl
  · rename_i hm
    rw [← List.map_eq_nil_iff (f := Match.form), (hall l hl).map_form_found]
    exact (hall l hl).outermost_eq_nil hk ht (Bool.eq_false_iff.2 hm)

end

open SomeNames

theorem searchText_eq_walkAll_quoted_call :
    ∃ forms ms, readAll (Text.of "(g) (funcall 'f 1)") = .ok forms ∧ forms.length = 2 ∧
      searchText (.named "f") .function (Text.of "(g) (funcall 'f 1)") = .ok ms ∧
      walkAll (Text.of "(g) (funcall 'f 1)") (.named "f") isFunctionReference forms = .ok ms := by
  have hread : readAll (Text.of "(g) (funcall 'f 1)") =
      .ok [⟨.list [.symbol (.named "g")], .ofNat 0 3, [⟨.named "g", 1, 1⟩]⟩,
        ⟨.list [.symbol (.named "funcall"), .quoted (.symbol (.named "f")), .int 1], .ofNat 4 18,
          [⟨.named "funcall", 1, 7⟩, ⟨.named "f", 10, 1⟩]⟩] := by decide +kernel
  have hhead : ∀ m : Shorthand, m.head ≠ .named "f" := by
    intro m
    cases m <;> decide
  have hrule : Kind.function.rule = .ok isFunctionReference := rfl
  obtain ⟨ms, hsearch, hwalk⟩ := searchText_eq_walkAll hread hrule hhead
  exact ⟨_, ms, hread, rfl, hsearch, hwalk⟩

/-! ## Two spellings of the same forms -/

section

variable {known : CharacterNames}

/-- The forms that a search matches follow from the forms that were read and from which
of them mention the target. -/
theorem map_form_searchText {text : Text} {forms : List Positioned} (h : readAll text = .ok forms)
    {kind : Kind} {rule : Rule} (hk : kind.rule = .ok rule) (target : Symbol) :
    ∃ ms, searchText target kind text = .ok ms ∧ ms.map Match.form = forms.flatMap fun p =>
      if p.mentions target then p.form.outermost (rule target) else [] := by
  obtain ⟨ls, hall, _, rfl⟩ := exists_row_of_readAll h
  refine ⟨_, searchText_of_row h hall target kind, ?_⟩
  rw [List.map_flatMap, List.flatMap_map]
  apply List.flatMap_congr
  intro l hl
  rw [Layout.matchesOf_eq hk]
  split
  · exact (hall l hl).map_form_found _
  · rfl

/-- For a target that is not the symbol of a mark, the forms alone decide. -/
theorem flatMap_outermost_of_readAll {text : Text} {forms : List Positioned}
    (h : readAll text = .ok forms) {kind : Kind} {rule : Rule} (hk : kind.rule = .ok rule)
    {target : Symbol} (ht : ∀ m : Shorthand, m.head ≠ target) :
    (forms.flatMap fun p => if p.mentions target then p.form.outermost (rule target) else []) =
      (forms.map Positioned.form).flatMap (Form.outermost (rule target)) := by
  obtain ⟨ls, hall, _, rfl⟩ := exists_row_of_readAll h
  rw [List.flatMap_map, List.flatMap_map, List.flatMap_map]
  apply List.flatMap_congr
  intro l hl
  split
  · rfl
  · rename_i hm
    exact ((hall l hl).outermost_eq_nil hk ht (Bool.eq_false_iff.2 hm)).symm

/-- A search for a kind with a rule matches the same forms in two texts that read to the
same forms, however these are written. The symbols of marks are different: a mark is no
token, so for them the top-level forms must also agree on which of them mention the
target. -/
theorem map_form_searchText_eq {t u : Text} {fs gs : List Positioned} {target : Symbol} {kind : Kind}
    (ht : readAll t = .ok fs) (hu : readAll u = .ok gs)
    (hforms : fs.map Positioned.form = gs.map Positioned.form) (hk : kind ≠ .symbol)
    (htarget : (∀ m : Shorthand, m.head ≠ target) ∨
      fs.map (·.mentions target) = gs.map (·.mentions target)) :
    ∃ ms ns, searchText target kind t = .ok ms ∧ searchText target kind u = .ok ns ∧
      ms.map Match.form = ns.map Match.form := by
  obtain ⟨rule, hrule⟩ := Kind.exists_rule hk
  obtain ⟨ms, hms, hm⟩ := map_form_searchText ht hrule target
  obtain ⟨ns, hns, hn⟩ := map_form_searchText hu hrule target
  refine ⟨ms, ns, hms, hns, ?_⟩
  rw [hm, hn]
  rcases htarget with hspelled | hmentions
  · rw [flatMap_outermost_of_readAll ht hrule hspelled, flatMap_outermost_of_readAll hu hrule hspelled,
      hforms]
  · have hpairs : (fs.map fun p => (p.form, p.mentions target)) =
        gs.map fun p => (p.form, p.mentions target) := by
      rw [← List.zip_map', hforms, hmentions, List.zip_map']
    have hmatched := congrArg
      (List.flatMap fun x => if x.2 then x.1.outermost (rule target) else []) hpairs
    rw [List.flatMap_map, List.flatMap_map] at hmatched
    exact hmatched

end

theorem map_form_searchText_eq_two_spellings :
    ∃ ms ns, searchText (.named "f") .function (Text.of "(g #'f)") = .ok ms ∧
      searchText (.named "f") .function (Text.of "(g (function f))") = .ok ns ∧
      ms.map Match.form = ns.map Match.form := by
  have hmark : readAll (Text.of "(g #'f)") =
      .ok [⟨.list [.symbol (.named "g"), Shorthand.function.apply (.symbol (.named "f"))], .ofNat 0 7,
        [⟨.named "g", 1, 1⟩, ⟨.named "f", 5, 1⟩]⟩] := by decide +kernel
  have hlist : readAll (Text.of "(g (function f))") =
      .ok [⟨.list [.symbol (.named "g"), Shorthand.function.apply (.symbol (.named "f"))], .ofNat 0 16,
        [⟨.named "g", 1, 1⟩, ⟨.named "function", 4, 8⟩, ⟨.named "f", 13, 1⟩]⟩] := by decide +kernel
  have hhead : ∀ m : Shorthand, m.head ≠ .named "f" := by
    intro m
    cases m <;> decide
  exact map_form_searchText_eq hmark hlist rfl (by decide) (.inl hhead)

/-- Written with a mark, a quoted form is no match for `quote`; written out, it is one,
although both texts read to the same form. -/
theorem searchText_quote_by_spelling :
    (readAll (Text.of "'x")).map (List.map Positioned.form) =
      .ok [.quoted (.symbol (.named "x"))] ∧
    (readAll (Text.of "(quote x)")).map (List.map Positioned.form) =
      .ok [.quoted (.symbol (.named "x"))] ∧
    searchText (.named "quote") .macroCall (Text.of "'x") = .ok [] ∧
    searchText (.named "quote") .macroCall (Text.of "(quote x)") =
      .ok [⟨.ofNat 0 9, .quoted (.symbol (.named "x"))⟩] := by
  decide +kernel

end LispXref
