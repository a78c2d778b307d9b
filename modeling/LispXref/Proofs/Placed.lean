-- Forms among their ancestors. A form of a text is placed with a path and a span: a
-- top-level form by itself, the items of proper lists and vectors by the child spans. Main
-- statements: a span belongs to one place, a symbol token has a place unless it stands in a
-- dotted list, and what a search finds are placed forms that its rule accepts.
import LispXref.Proofs.Padding
import LispXref.Proofs.Tokens

namespace LispXref

open Reading

/-- The span lies inside the other one. -/
def Span.Within (s t : Span) : Prop := t.start ≤ s.start ∧ s.stop ≤ t.stop

theorem Span.Within.refl (s : Span) : s.Within s := ⟨Int.le_refl _, Int.le_refl _⟩

theorem Span.Within.trans {s t u : Span} (h : s.Within t) (h' : t.Within u) : s.Within u :=
  ⟨Int.le_trans h'.1 h.1, Int.le_trans h.2 h'.2⟩

/-- The forms that a walk can reach, with their paths and spans. Dotted lists are reached,
but nothing in them is. -/
inductive Placed [CharacterNames] (text : Text) : Form → Path → Span → Prop
  | top {forms : List Positioned} {p : Positioned} : readAll text = .ok forms → p ∈ forms →
      Placed text p.form [] p.span
  | item {f g : Form} {path : Path} {span s : Span} {spans : List Span} {i : Nat} :
      Placed text f path span → childSpans text span = .ok spans → f.children[i]? = some g →
      spans[i]? = some s → Placed text g (⟨f.operator?, i⟩ :: path) s

theorem Form.descends_of_getElem?_children {f g : Form} {i : Nat} (h : f.children[i]? = some g) :
    f.descends = true := by
  cases f <;> first | rfl | cases h

namespace Reading

/-! ## Nodes of a layout -/

variable {known : CharacterNames}

section Nodes

variable {text : Text} {l : Layout} {path : Path} {above : List (Form × Path)}
  {accepts : Form → Path → Bool} {n : Node} {m : Match}

theorem Layout.mem_nodesAmong {operator : Option Symbol} {index : Nat} {ls : List Layout} :
    n ∈ nodesAmong path above operator index ls ↔
      ∃ (i : Nat) (k : Layout), ls[i]? = some k ∧
        n ∈ k.nodes (⟨operator, (index + i : Nat)⟩ :: path) above := by
  induction ls generalizing index with
  | nil => simp [nodesAmong]
  | cons l ls ih =>
    have hindex : ∀ i, index + 1 + i = index + (i + 1) := by omega
    rw [nodesAmong, List.mem_append, ih]
    constructor
    · rintro (h | ⟨i, k, hk, hn⟩)
      · exact ⟨0, l, rfl, h⟩
      · exact ⟨i + 1, k, hk, hindex i ▸ hn⟩
    · rintro ⟨i, k, hk, hn⟩
      cases i with
      | zero =>
        cases hk
        exact .inl hn
      | succ i => exact .inr ⟨i, k, hk, (hindex i).symm ▸ hn⟩

/-- A node of a layout is the layout itself, or a node of a part of it. -/
theorem Layout.mem_nodes : n ∈ l.nodes path above ↔ n = ⟨⟨l.form, path, above⟩, l.span⟩ ∨
    l.form.descends = true ∧ ∃ (i : Nat) (k : Layout), l.parts[i]? = some k ∧
      n ∈ k.nodes (⟨l.form.operator?, i⟩ :: path) ((l.form, path) :: above) := by
  rw [nodes_eq, List.mem_cons]
  cases l.form.descends with
  | true => simp [mem_nodesAmong]
  | false => simp

/-- A form that is not gone down into has no other node. -/
theorem Layout.eq_of_mem_nodes (hd : l.form.descends = false) (hn : n ∈ l.nodes path above) :
    n = ⟨⟨l.form, path, above⟩, l.span⟩ := by
  rcases mem_nodes.1 hn with rfl | ⟨hd', _⟩
  · rfl
  · rw [hd] at hd'
    cases hd'

theorem Layout.mem_foundAmong {operator : Option Symbol} {index i : Nat} {ls : List Layout}
    {k : Layout} (hk : ls[i]? = some k)
    (hm : m ∈ k.found accepts (⟨operator, (index + i : Nat)⟩ :: path)) :
    m ∈ foundAmong accepts path operator index ls := by
  induction ls generalizing index i with
  | nil => cases hk
  | cons l ls ih =>
    rw [foundAmong, List.mem_append]
    cases i with
    | zero =>
      cases hk
      exact .inl hm
    | succ i =>
      have hindex : index + (i + 1) = index + 1 + i := by omega
      exact .inr (ih hk (hindex ▸ hm))

/-! ## Regions of nodes -/

theorem Laid.within_part {k : Layout} (h : Laid text l) (hk : k ∈ l.parts) :
    k.span.Within l.span := by
  have hle : ∀ k ∈ l.parts, k.start ≤ k.stop := fun k hk => Nat.le_of_lt (h.lt_of_mem_parts hk)
  obtain ⟨hstart, hstop⟩ := h.row_parts.bounds hle hk
  exact ⟨Int.ofNat_le.2 hstart, Int.ofNat_le.2 hstop⟩

/-- A part does not take up all of the layout: the mark ends before the form behind it, and
all other parts start behind a mark or a bracket. -/
theorem Laid.not_within_part {k : Layout} (h : Laid text l) (hk : k ∈ l.parts) :
    ¬ l.span.Within k.span := by
  rintro ⟨hstart, hstop⟩
  cases h with
  | atom hx => cases hk
  | @shorthand s q m inner hx hg hi =>
    have hstart : k.start ≤ s := Int.ofNat_le.1 hstart
    have hstop : inner.stop ≤ k.stop := Int.ofNat_le.1 hstop
    have hmark : q = s + m.mark.length := hx.spelled.2.1
    have hq := hx.bounds.1
    have hgap := hg.le
    have hinner := hi.bounds.1
    rcases List.mem_cons.1 hk with rfl | hk
    · have hstop : inner.stop ≤ s + m.mark.length := hstop
      omega
    · cases List.mem_singleton.1 hk
      omega
  | @bracket s q e b items tail p hx hin hfirst hall hb =>
    have hstart : k.start ≤ s := Int.ofNat_le.1 hstart
    have hmem : k ∈ items ++ tail.toList := by
      cases b with
      | propertied => cases hk
      | _ => exact hk
    obtain ⟨r, hrow, _⟩ := hin.row
    have hle := (hrow.bounds (fun l hl => (hall l hl).start_le_stop) hmem).1
    have hq := hx.bounds.1
    omega

/-- In a row, something that is not empty lies in one layout only. -/
theorem Row.index_eq {q e i j : Nat} {ls : List Layout} {k k' : Layout} {s : Span}
    (h : Row q ls e) (hle : ∀ l ∈ ls, l.start ≤ l.stop) (hi : ls[i]? = some k)
    (hj : ls[j]? = some k') (hs : s.start < s.stop) (hk : s.Within k.span) (hk' : s.Within k'.span) :
    i = j := by
  obtain ⟨hstart, hstop⟩ := hk
  obtain ⟨hstart', hstop'⟩ := hk'
  simp only [Layout.span, Span.ofNat] at hstart hstop hstart' hstop'
  induction ls generalizing q i j with
  | nil => cases hi
  | cons l ls ih =>
    have hrest : ∀ l ∈ ls, l.start ≤ l.stop := fun l hl => hle l (List.mem_cons_of_mem _ hl)
    cases i with
    | zero =>
      cases j with
      | zero => rfl
      | succ j =>
        cases hi
        have := (h.2.bounds hrest (List.mem_of_getElem? hj)).1
        omega
    | succ i =>
      cases j with
      | zero =>
        cases hj
        have := (h.2.bounds hrest (List.mem_of_getElem? hi)).1
        omega
      | succ j => exact congrArg (· + 1) (ih h.2 hrest hi hj)

/-- The nodes of a layout lie inside it, none of them is empty, and each has a region of its
own. -/
structure Layout.Separate (l : Layout) : Prop where
  within : ∀ path above, ∀ n ∈ l.nodes path above, n.span.Within l.span
  start_lt_stop : ∀ path above, ∀ n ∈ l.nodes path above, n.span.start < n.span.stop
  unique : ∀ path above, ∀ n ∈ l.nodes path above, ∀ n' ∈ l.nodes path above,
    n.span = n'.span → n = n'

/-- A layout without nodes but its own. -/
theorem Layout.separate_of_not_descends (hd : l.form.descends = false) (hlt : l.start < l.stop) :
    l.Separate := by
  refine ⟨?_, ?_, ?_⟩
  · intro path above n hn
    rw [eq_of_mem_nodes hd hn]
    exact .refl _
  · intro path above n hn
    rw [eq_of_mem_nodes hd hn]
    exact Int.ofNat_lt.2 hlt
  · intro path above n hn n' hn' _
    rw [eq_of_mem_nodes hd hn, eq_of_mem_nodes hd hn']

theorem Laid.separate_of_parts (h : Laid text l) (hparts : ∀ k ∈ l.parts, k.Separate) :
    l.Separate := by
  have hle : ∀ k ∈ l.parts, k.start ≤ k.stop := fun k hk => Nat.le_of_lt (h.lt_of_mem_parts hk)
  refine ⟨?_, ?_, ?_⟩
  · intro path above n hn
    rcases Layout.mem_nodes.1 hn with rfl | ⟨_, i, k, hk, hn⟩
    · exact .refl _
    · have hmem := List.mem_of_getElem? hk
      exact ((hparts k hmem).within _ _ n hn).trans (h.within_part hmem)
  · intro path above n hn
    rcases Layout.mem_nodes.1 hn with rfl | ⟨_, i, k, hk, hn⟩
    · exact Int.ofNat_lt.2 h.bounds.1
    · exact (hparts k (List.mem_of_getElem? hk)).start_lt_stop _ _ n hn
  · intro path above n hn n' hn' hspan
    rcases Layout.mem_nodes.1 hn with rfl | ⟨_, i, k, hk, hn⟩
    · rcases Layout.mem_nodes.1 hn' with rfl | ⟨_, j, k', hk', hn'⟩
      · rfl
      · have hmem := List.mem_of_getElem? hk'
        have hwithin := (hparts k' hmem).within _ _ n' hn'
        rw [← hspan] at hwithin
        exact absurd hwithin (h.not_within_part hmem)
    · have hmem := List.mem_of_getElem? hk
      have hwithin := (hparts k hmem).within _ _ n hn
      rcases Layout.mem_nodes.1 hn' with rfl | ⟨_, j, k', hk', hn'⟩
      · rw [hspan] at hwithin
        exact absurd hwithin (h.not_within_part hmem)
      · have hwithin' := (hparts k' (List.mem_of_getElem? hk')).within _ _ n' hn'
        rw [← hspan] at hwithin'
        have hlt := (hparts k hmem).start_lt_stop _ _ n hn
        obtain rfl := h.row_parts.index_eq hle hk hk' hlt hwithin hwithin'
        rw [hk] at hk'
        cases hk'
        exact (hparts k hmem).unique _ _ n hn n' hn' hspan

theorem Laid.separate (h : Laid text l) : l.Separate := by
  refine h.induction_on_parts (P := Layout.Separate) ?_ Laid.separate_of_parts
  intro m s q hx
  obtain rfl : q = s + m.mark.length := hx.spelled.2.1
  exact Layout.separate_of_not_descends rfl hx.bounds.1

/-! ## Accepted nodes -/

/-- Around every accepted node something is found. -/
theorem Laid.exists_found (h : Laid text l) : ∀ path above, ∀ n ∈ l.nodes path above,
    accepts n.form n.path = true → ∃ m ∈ l.found accepts path, n.span.Within m.span := by
  refine h.induction_on_parts (P := fun l => ∀ path above, ∀ n ∈ l.nodes path above,
    accepts n.form n.path = true → ∃ m ∈ l.found accepts path, n.span.Within m.span) ?_ ?_
  · intro m s q hx path above n hn hacc
    cases Layout.eq_of_mem_nodes rfl hn
    rw [Layout.found_eq, if_pos hacc]
    exact ⟨_, List.mem_singleton.2 rfl, .refl _⟩
  · intro l hl hparts path above n hn hacc
    by_cases hroot : accepts l.form path = true
    · rw [Layout.found_eq, if_pos hroot]
      exact ⟨_, List.mem_singleton.2 rfl, hl.separate.within path above n hn⟩
    · rw [Layout.found_eq, if_neg hroot]
      rcases Layout.mem_nodes.1 hn with rfl | ⟨hd, i, k, hk, hn⟩
      · exact absurd hacc hroot
      · obtain ⟨m, hm, hwithin⟩ := hparts k (List.mem_of_getElem? hk) _ _ n hn hacc
        rw [if_pos hd]
        refine ⟨m, Layout.mem_foundAmong hk ?_, hwithin⟩
        rw [Nat.zero_add]
        exact hm

/-- The ancestors of a node are forms that a walk goes down into. -/
theorem Laid.descends_of_mem_above (h : Laid text l) : ∀ path above, ∀ n ∈ l.nodes path above,
    ∀ a ∈ n.above, a ∈ above ∨ a.1.descends = true := by
  refine h.induction_on_parts (P := fun l => ∀ path above, ∀ n ∈ l.nodes path above,
    ∀ a ∈ n.above, a ∈ above ∨ a.1.descends = true) ?_ ?_
  · intro m s q hx path above n hn a ha
    cases Layout.eq_of_mem_nodes rfl hn
    exact .inl ha
  · intro l hl hparts path above n hn a ha
    rcases Layout.mem_nodes.1 hn with rfl | ⟨hd, i, k, hk, hn⟩
    · exact .inl ha
    · rcases hparts k (List.mem_of_getElem? hk) _ _ n hn a ha with ha | ha
      · rcases List.mem_cons.1 ha with rfl | ha
        · exact .inr hd
        · exact .inl ha
      · exact .inr ha

/-- An accepted node is found if the rule accepts nothing that a walk goes down into. -/
theorem Laid.toMatch_mem_found (h : Laid text l)
    (hrejects : ∀ f path, f.descends = true → accepts f path = false) (hn : n ∈ l.nodes [] [])
    (hacc : accepts n.form n.path = true) : n.toMatch ∈ l.found accepts [] := by
  have hnone : ∀ a ∈ ([] : List (Form × Path)), accepts a.1 a.2 = false := nofun
  rw [Layout.found_eq_outermost hnone l]
  refine List.mem_map_of_mem (List.mem_filter.2 ⟨hn, ?_⟩)
  rw [Place.isOutermost, hacc, Bool.true_and, List.all_eq_true]
  intro a ha
  rcases h.descends_of_mem_above [] [] n hn a ha with ha | ha
  · cases ha
  · rw [hrejects a.1 a.2 ha]
    rfl

/-- What is found are accepted nodes. -/
theorem Layout.exists_node_of_mem_found (hm : m ∈ l.found accepts []) :
    ∃ n ∈ l.nodes [] [], n.toMatch = m ∧ accepts n.form n.path = true := by
  have hnone : ∀ a ∈ ([] : List (Form × Path)), accepts a.1 a.2 = false := nofun
  rw [found_eq_outermost hnone l] at hm
  obtain ⟨n, hn, rfl⟩ := List.mem_map.1 hm
  obtain ⟨hn, hacc⟩ := List.mem_filter.1 hn
  rw [Place.isOutermost, Bool.and_eq_true] at hacc
  exact ⟨n, hn, rfl, hacc.1⟩

/-! ## Nodes of tokens -/

/-- The tokens of a compound are those of its parts. -/
theorem Laid.occurrences_eq (h : Laid text l) (hc : l.form.isCompound = true) :
    l.occurrences = l.parts.flatMap Layout.occurrences := by
  cases h with
  | @atom s e f hx =>
    have hf : (Piece.ofAtom s e f).form.isCompound = true := hc
    rw [Piece.form_ofAtom, hx.spelled] at hf
    cases hf
  | @shorthand s q m inner hx hg hi =>
    show inner.occurrences = [] ++ (inner.occurrences ++ [])
    rw [List.nil_append, List.append_nil]
  | @bracket s q e b items tail p hx hin hfirst hall hb =>
    obtain ⟨hf, ho, _⟩ := Bracket.build_eq_done.1 hb
    show p.occurrences = (b.parts items tail).flatMap Layout.occurrences
    rw [ho]
    cases b with
    | propertied =>
      have hatom := Bracket.isCompound_of_propertied hf
      rw [show p.form.isCompound = true from hc] at hatom
      cases hatom
    | _ => rfl

/-- An atom has a token only if it is a symbol, unless it is a string with text properties. -/
theorem Laid.eq_of_mem_occurrences (h : Laid text l) (hmark : ¬ propertiesMark <:+: text)
    (hc : l.form.isCompound = false) {o : Occurrence} (ho : o ∈ l.occurrences) :
    l.form = .symbol o.symbol ∧ l.span = o.toMatch.span := by
  cases h with
  | @atom s e f hx =>
    cases f with
    | symbol x =>
      cases List.mem_singleton.1 ho
      have hle := Nat.le_of_lt hx.bounds.1
      refine ⟨rfl, ?_⟩
      simp only [Layout.span, Layout.start, Layout.stop, Occurrence.toMatch, Nat.add_sub_cancel' hle]
    | _ => cases ho
  | shorthand => cases hc
  | @bracket s q e b items tail p hx hin hfirst hall hb =>
    obtain ⟨hf, _, _⟩ := Bracket.build_eq_done.1 hb
    have hatom : p.form.isCompound = false := hc
    cases b with
    | propertied => exact absurd hx.propertiesMark_infix hmark
    | list => cases tail <;> (rw [← Option.some.inj hf] at hatom; cases hatom)
    | vector kind =>
      rw [← Option.some.inj hf] at hatom
      cases hatom

/-- A symbol token has a node, or it stands in a dotted list that has one. -/
theorem Laid.exists_node_of_mem_occurrences (h : Laid text l) (hmark : ¬ propertiesMark <:+: text) :
    ∀ path above, ∀ o ∈ l.occurrences, ∃ n ∈ l.nodes path above,
      n.form = .symbol o.symbol ∧ n.span = o.toMatch.span ∨
        (∃ items tail, n.form = .dotted items tail) ∧ o.toMatch.span.Within n.span := by
  refine h.induction_on_parts (P := fun l => ∀ path above, ∀ o ∈ l.occurrences,
    ∃ n ∈ l.nodes path above, n.form = .symbol o.symbol ∧ n.span = o.toMatch.span ∨
      (∃ items tail, n.form = .dotted items tail) ∧ o.toMatch.span.Within n.span) ?_ ?_
  · intro m s q hx path above o ho
    cases ho
  · intro l hl hparts path above o ho
    cases hc : l.form.isCompound with
    | false => exact ⟨_, Layout.mem_nodes.2 (.inl rfl), .inl (hl.eq_of_mem_occurrences hmark hc ho)⟩
    | true =>
      cases hd : l.form.descends with
      | true =>
        rw [hl.occurrences_eq hc] at ho
        obtain ⟨k, hk, ho⟩ := List.mem_flatMap.1 ho
        obtain ⟨i, hi⟩ := List.getElem?_of_mem hk
        obtain ⟨n, hn, hnode⟩ := hparts k hk (⟨l.form.operator?, i⟩ :: path)
          ((l.form, path) :: above) o ho
        exact ⟨n, Layout.mem_nodes.2 (.inr ⟨hd, i, k, hi, hn⟩), hnode⟩
      | false =>
        -- Of the compounds, only a dotted list is not gone down into.
        obtain ⟨items, tail, hform⟩ : ∃ items tail, l.form = .dotted items tail := by
          cases hf : l.form with
          | dotted items tail => exact ⟨items, tail, rfl⟩
          | list items | vector kind items =>
            rw [hf] at hd
            cases hd
          | _ =>
            rw [hf] at hc
            cases hc
        have hinside := hl.inOrder_occurrences.mem (List.mem_map_of_mem ho)
        exact ⟨_, Layout.mem_nodes.2 (.inl rfl), .inr ⟨⟨items, tail, hform⟩, hinside.1, hinside.2.2⟩⟩

end Nodes

end Reading

/-! ## Places -/

section Places

variable {known : CharacterNames}
variable {text : Text} {ls : List Layout} {forms : List Positioned} {f g : Form} {path path' : Path}
  {s : Span}

/-- Forms that include the top-level ones and with a form its children include every placed one. -/
theorem Placed.mem_of_children {fs : List Form} (h : Placed text f path s)
    (hread : readAll text = .ok forms) (htop : ∀ p ∈ forms, p.form ∈ fs)
    (hchildren : ∀ f ∈ fs, ∀ g ∈ f.children, g ∈ fs) : f ∈ fs := by
  induction h with
  | top hread' hp => exact htop _ (Except.ok.inj (hread'.symm.trans hread) ▸ hp)
  | item _ _ hg _ ih => exact hchildren _ ih _ (List.mem_of_getElem? hg)

/-- A placed form has a layout among those of the text. -/
theorem Placed.exists_layout (h : Placed text f path s)
    (hread : readAll text = .ok (ls.map Layout.positioned)) (hall : ∀ l ∈ ls, Laid text l) :
    ∃ l ∈ ls, ∃ k above, k.form = f ∧ k.span = s ∧ (f.isCompound = true → Laid text k) ∧
      ∀ n ∈ k.nodes path above, n ∈ l.nodes [] [] := by
  induction h with
  | top hforms hp =>
    rw [hread] at hforms
    cases hforms
    obtain ⟨l, hl, rfl⟩ := List.mem_map.1 hp
    exact ⟨l, hl, l, [], rfl, rfl, fun _ => hall l hl, fun _ hn => hn⟩
  | @item f g path span s spans i _ hspans hg hs ih =>
    obtain ⟨l, hl, k, above, rfl, rfl, hlaid, hnodes⟩ := ih
    have hd := Form.descends_of_getElem?_children hg
    have hc := Form.isCompound_of_descends hd
    have hk := hlaid hc
    rw [(hk.compound hc).1] at hspans
    cases hspans
    rw [hk.children_eq hd, List.getElem?_map, Option.map_eq_some_iff] at hg
    obtain ⟨part, hpart, rfl⟩ := hg
    rw [List.getElem?_map, hpart] at hs
    cases hs
    refine ⟨l, hl, part, (k.form, path) :: above, rfl, rfl, ?_, ?_⟩
    · intro hcompound
      rcases hk.part hc hpart with ⟨_, m, _, rfl, _⟩ | ⟨hpartLaid, _⟩
      · cases hcompound
      · exact hpartLaid
    · intro n hn
      exact hnodes n (Layout.mem_nodes.2 (.inr ⟨hd, i, part, hpart, hn⟩))

theorem Placed.exists_node (h : Placed text f path s)
    (hread : readAll text = .ok (ls.map Layout.positioned)) (hall : ∀ l ∈ ls, Laid text l) :
    ∃ l ∈ ls, ∃ n ∈ l.nodes [] [], n.form = f ∧ n.path = path ∧ n.span = s := by
  obtain ⟨l, hl, k, above, rfl, rfl, _, hnodes⟩ := h.exists_layout hread hall
  exact ⟨l, hl, _, hnodes _ (Layout.mem_nodes.2 (.inl rfl)), rfl, rfl, rfl⟩

/-- The nodes of a placed form are placed. -/
theorem Reading.Laid.placed_of_mem_nodes {l : Layout} (h : Laid text l) : ∀ path above,
    Placed text l.form path l.span → ∀ n ∈ l.nodes path above, Placed text n.form n.path n.span := by
  refine h.induction_on_parts (P := fun l => ∀ path above, Placed text l.form path l.span →
    ∀ n ∈ l.nodes path above, Placed text n.form n.path n.span) ?_ ?_
  · intro m s q hx path above hplaced n hn
    cases Layout.eq_of_mem_nodes rfl hn
    exact hplaced
  · intro l hl hparts path above hplaced n hn
    rcases Layout.mem_nodes.1 hn with rfl | ⟨hd, i, k, hk, hn⟩
    · exact hplaced
    · have hspans := (hl.compound (Form.isCompound_of_descends hd)).1
      have hform : l.form.children[i]? = some k.form := by
        rw [hl.children_eq hd, List.getElem?_map, hk]
        rfl
      have hspan : (l.parts.map Layout.span)[i]? = some k.span := by
        rw [List.getElem?_map, hk]
        rfl
      exact hparts k (List.mem_of_getElem? hk) _ _ (.item hplaced hspans hform hspan) n hn

/-- The nodes of a text are placed. -/
theorem placed_of_mem_nodes (hread : readAll text = .ok (ls.map Layout.positioned))
    (hall : ∀ l ∈ ls, Laid text l) {l : Layout} (hl : l ∈ ls) {n : Node} (hn : n ∈ l.nodes [] []) :
    Placed text n.form n.path n.span :=
  (hall l hl).placed_of_mem_nodes [] [] (.top hread (List.mem_map_of_mem hl)) n hn

/-- A span belongs to one place. -/
theorem Placed.unique (h : Placed text f path s) (h' : Placed text g path' s)
    (hread : readAll text = .ok forms) : f = g ∧ path = path' := by
  obtain ⟨ls, hall, hrow, rfl⟩ := exists_row_of_readAll hread
  obtain ⟨l, hl, n, hn, rfl, rfl, rfl⟩ := h.exists_node hread hall
  obtain ⟨l', hl', n', hn', rfl, rfl, hspan⟩ := h'.exists_node hread hall
  obtain ⟨i, hi⟩ := List.getElem?_of_mem hl
  obtain ⟨j, hj⟩ := List.getElem?_of_mem hl'
  have hseparate := (hall l hl).separate
  have hwithin' : n.span.Within l'.span := hspan ▸ (hall l' hl').separate.within _ _ n' hn'
  have hlt := hseparate.start_lt_stop _ _ n hn
  obtain rfl := hrow.index_eq (fun l hl => (hall l hl).start_le_stop) hi hj hlt
    (hseparate.within _ _ n hn) hwithin'
  rw [hi] at hj
  cases hj
  obtain rfl := hseparate.unique _ _ n hn n' hn' hspan.symm
  exact ⟨rfl, rfl⟩

/-- Inside a dotted list that a walk reaches. -/
def InDottedList [CharacterNames] (text : Text) (s : Span) : Prop :=
  ∃ items tail path span, Placed text (.dotted items tail) path span ∧ s.Within span

/-- A symbol token outside of dotted lists has a place, unless text properties are written. -/
theorem exists_placed_token (hread : readAll text = .ok (ls.map Layout.positioned))
    (hall : ∀ l ∈ ls, Laid text l) (hmark : ¬ propertiesMark <:+: text) {l : Layout} (hl : l ∈ ls)
    {o : Occurrence} (ho : o ∈ l.occurrences) (hdotted : ¬ InDottedList text o.toMatch.span) :
    ∃ path, Placed text (.symbol o.symbol) path o.toMatch.span := by
  obtain ⟨n, hn, hnode⟩ := (hall l hl).exists_node_of_mem_occurrences hmark [] [] o ho
  have hplaced := placed_of_mem_nodes hread hall hl hn
  rcases hnode with ⟨hform, hspan⟩ | ⟨⟨items, tail, hform⟩, hwithin⟩
  · rw [hform, hspan] at hplaced
    exact ⟨n.path, hplaced⟩
  · rw [hform] at hplaced
    exact absurd ⟨items, tail, n.path, n.span, hplaced, hwithin⟩ hdotted

end Places

/-! ## Searches -/

section Searches

variable {known : CharacterNames}
variable {text : Text} {ls : List Layout} {forms : List Positioned} {target : Symbol} {kind : Kind}
  {rule : Rule} {ms : List Match} {f : Form} {path : Path} {s : Span}

theorem Reading.Laid.found_eq_nil {l : Layout} (h : Laid text l) (hk : kind.rule = .ok rule)
    (ht : ∀ m : Shorthand, m.head ≠ target) (hm : l.positioned.mentions target = false) :
    l.found (rule target) [] = [] := by
  rw [← List.map_eq_nil_iff (f := Match.form), h.map_form_found]
  exact h.outermost_eq_nil hk ht hm

/-- A search finds what is found in the layouts of the text. -/
theorem searchText_eq_found (hread : readAll text = .ok (ls.map Layout.positioned))
    (hall : ∀ l ∈ ls, Laid text l) (hk : kind.rule = .ok rule) (ht : ∀ m : Shorthand, m.head ≠ target) :
    searchText target kind text = .ok (ls.flatMap fun l => l.found (rule target) []) := by
  rw [searchText_of_row hread hall]
  congr 1
  refine List.flatMap_congr fun l hl => ?_
  rw [Layout.matchesOf_eq hk]
  split
  · rfl
  · rename_i hm
    exact ((hall l hl).found_eq_nil hk ht (Bool.eq_false_iff.2 hm)).symm

/-- Every match of a rule is a placed form that the rule accepts. -/
theorem exists_placed_of_mem_searchText (hread : readAll text = .ok forms)
    (hk : kind.rule = .ok rule) (h : searchText target kind text = .ok ms) {m : Match} (hm : m ∈ ms) :
    ∃ path, Placed text m.form path m.span ∧ rule target m.form path = true := by
  obtain ⟨ls, hall, _, rfl⟩ := exists_row_of_readAll hread
  rw [searchText_of_row hread hall] at h
  cases h
  obtain ⟨l, hl, hm⟩ := List.mem_flatMap.1 hm
  split at hm
  · rw [Layout.matchesOf_eq hk] at hm
    obtain ⟨n, hn, rfl, hacc⟩ := Layout.exists_node_of_mem_found hm
    exact ⟨n.path, placed_of_mem_nodes hread hall hl hn, hacc⟩
  · cases hm

/-- Around every placed form that the rule of a kind accepts, the search finds a match. -/
theorem Placed.exists_match (h : Placed text f path s) (hread : readAll text = .ok forms)
    (hk : kind.rule = .ok rule) (ht : ∀ m : Shorthand, m.head ≠ target)
    (hacc : rule target f path = true) :
    ∃ ms, searchText target kind text = .ok ms ∧ ∃ m ∈ ms, s.Within m.span := by
  obtain ⟨ls, hall, _, rfl⟩ := exists_row_of_readAll hread
  refine ⟨_, searchText_eq_found hread hall hk ht, ?_⟩
  obtain ⟨l, hl, n, hn, rfl, rfl, rfl⟩ := h.exists_node hread hall
  obtain ⟨m, hm, hwithin⟩ := (hall l hl).exists_found [] [] n hn hacc
  exact ⟨m, List.mem_flatMap.2 ⟨l, hl, hm⟩, hwithin⟩

/-- A placed symbol that the rule for variables accepts is found in the layout around it. -/
theorem Placed.mem_found (h : Placed text (.symbol target) path s)
    (hread : readAll text = .ok (ls.map Layout.positioned)) (hall : ∀ l ∈ ls, Laid text l)
    (hacc : isVariableReference target (.symbol target) path = true) :
    ∃ l ∈ ls, s.start < s.stop ∧ s.Within l.span ∧
      ⟨s, .symbol target⟩ ∈ l.found (isVariableReference target) [] := by
  obtain ⟨l, hl, n, hn, hform, rfl, rfl⟩ := h.exists_node hread hall
  have hrejects : ∀ f path, f.descends = true → isVariableReference target f path = false := by
    intro f path hd
    cases f <;> first | rfl | cases hd
  have hfound := (hall l hl).toMatch_mem_found hrejects hn (hform ▸ hacc)
  rw [Node.toMatch, hform] at hfound
  have hseparate := (hall l hl).separate
  exact ⟨l, hl, hseparate.start_lt_stop [] [] n hn, hseparate.within [] [] n hn, hfound⟩

/-- A search for variables finds every placed symbol that its rule accepts. -/
theorem Placed.mem_searchText (h : Placed text (.symbol target) path s)
    (hread : readAll text = .ok forms) (ht : ∀ m : Shorthand, m.head ≠ target)
    (hacc : isVariableReference target (.symbol target) path = true) :
    ∃ ms, searchText target .variableUse text = .ok ms ∧ ⟨s, .symbol target⟩ ∈ ms := by
  obtain ⟨ls, hall, _, rfl⟩ := exists_row_of_readAll hread
  have hk : Kind.variableUse.rule = .ok isVariableReference := rfl
  refine ⟨_, searchText_eq_found hread hall hk ht, ?_⟩
  obtain ⟨l, hl, _, _, hfound⟩ := h.mem_found hread hall hacc
  exact List.mem_flatMap.2 ⟨l, hl, hfound⟩

/-- A search for variables finds a token that its rule accepts, also if the symbol is that of
a mark. -/
theorem Placed.mem_searchText_of_token {ts : List Match} {t : Match}
    (h : Placed text (.symbol target) path t.span) (hread : readAll text = .ok forms)
    (hts : searchText target .symbol text = .ok ts) (ht : t ∈ ts)
    (hacc : isVariableReference target (.symbol target) path = true) :
    ∃ ms, searchText target .variableUse text = .ok ms ∧ ⟨t.span, .symbol target⟩ ∈ ms := by
  obtain ⟨ls, hall, hrow, rfl⟩ := exists_row_of_readAll hread
  rw [searchText_of_row hread hall] at hts
  cases hts
  obtain ⟨l', hl', ht⟩ := List.mem_flatMap.1 ht
  obtain ⟨hmentions, ht⟩ := List.mem_ite_nil_right.1 ht
  refine ⟨_, searchText_of_row hread hall target .variableUse, ?_⟩
  obtain ⟨l, hl, hlt, hwithin, hfound⟩ := h.mem_found hread hall hacc
  -- The token and the symbol are at one place, so they are in one form.
  have htoken := ((hall l' hl').inOrder_tokens target).mem ht
  obtain ⟨i, hi⟩ := List.getElem?_of_mem hl
  obtain ⟨j, hj⟩ := List.getElem?_of_mem hl'
  obtain rfl := hrow.index_eq (fun l hl => (hall l hl).start_le_stop) hi hj hlt hwithin
    ⟨htoken.1, htoken.2.2⟩
  obtain rfl := Option.some.inj (hi.symm.trans hj)
  exact List.mem_flatMap.2 ⟨l, hl, List.mem_ite_nil_right.2 ⟨hmentions, hfound⟩⟩

end Searches

end LispXref
