-- What a walk finds. The nodes of a form are listed in the order of the text, each
-- with its ancestors; main statement: the walk finds the outermost nodes that are
-- accepted, although it passes over items that cannot matter and does not go below
-- what it finds.
import LispXref.Proofs.ChildSpans
import LispXref.Reading.SomeNames
import LispXref.Walk

namespace LispXref

open Reading

/-- The compounds that a walk goes down into: proper lists and vectors. -/
def Form.descends : Form → Bool
  | .list _ | .vector _ _ => true
  | _ => false

theorem Form.isCompound_of_descends {f : Form} (h : f.descends = true) : f.isCompound = true := by
  cases f <;> first | rfl | cases h

/-! ## Nodes -/

/-- A form below a top-level form, with its path and with its proper ancestors and
their paths, the innermost first. -/
structure Place where
  form : Form
  path : Path
  above : List (Form × Path)

/-- Whether the form is accepted at its place and no ancestor is. -/
def Place.isOutermost (accepts : Form → Path → Bool) (p : Place) : Bool :=
  accepts p.form p.path && p.above.all fun a => !accepts a.1 a.2

mutual

/-- The places in a form: its own, and then those in its items if it is a proper list
or a vector. -/
def Form.places (path : Path) (above : List (Form × Path)) (f : Form) : List Place :=
  match f with
  | .list items | .vector _ items =>
    ⟨f, path, above⟩ :: placesAmong path ((f, path) :: above) f.operator? 0 items
  | _ => [⟨f, path, above⟩]

/-- The places in items, the first of them at an index of a compound. -/
def Form.placesAmong (path : Path) (above : List (Form × Path)) (operator : Option Symbol)
    (index : Nat) (fs : List Form) : List Place :=
  match fs with
  | [] => []
  | f :: fs =>
    f.places (⟨operator, index⟩ :: path) above ++ placesAmong path above operator (index + 1) fs

end

/-- A place with the region of its form. -/
structure Node extends Place where
  span : Span

namespace Node

/-- What is reported of a node. -/
def toMatch (n : Node) : Match := ⟨n.span, n.form⟩

/-- The region of a node is where its form is read, or the mark that stands for it. -/
def Stands [CharacterNames] (text : Text) (n : Node) : Prop :=
  ReadsAt text n.form n.span ∨
    ∃ m : Shorthand, n.form = .symbol m.head ∧ slice text n.span.start n.span.stop = m.mark

end Node

namespace Reading

mutual

/-- The nodes of a layout: the places in its form, with the regions that the layout
gives them. -/
def Layout.nodes (path : Path) (above : List (Form × Path)) : Layout → List Node
  | .node p s e parts =>
    ⟨⟨p.form, path, above⟩, .ofNat s e⟩ ::
      if p.form.descends then nodesAmong path ((p.form, path) :: above) p.form.operator? 0 parts
      else []

/-- The nodes of items, the first of them at an index of a compound. -/
def Layout.nodesAmong (path : Path) (above : List (Form × Path)) (operator : Option Symbol)
    (index : Nat) : List Layout → List Node
  | [] => []
  | l :: ls =>
    l.nodes (⟨operator, index⟩ :: path) above ++ nodesAmong path above operator (index + 1) ls

end

mutual

/-- The matches of a layout, found from the outside in. -/
def Layout.found (accepts : Form → Path → Bool) (path : Path) : Layout → List Match
  | .node p s e parts =>
    if accepts p.form path then [⟨.ofNat s e, p.form⟩]
    else if p.form.descends then foundAmong accepts path p.form.operator? 0 parts
    else []

/-- The matches of items, the first of them at an index of a compound. -/
def Layout.foundAmong (accepts : Form → Path → Bool) (path : Path) (operator : Option Symbol)
    (index : Nat) : List Layout → List Match
  | [] => []
  | l :: ls =>
    l.found accepts (⟨operator, index⟩ :: path) ++ foundAmong accepts path operator (index + 1) ls

end

theorem Layout.nodes_eq (l : Layout) (path : Path) (above : List (Form × Path)) :
    l.nodes path above = ⟨⟨l.form, path, above⟩, l.span⟩ ::
      if l.form.descends then nodesAmong path ((l.form, path) :: above) l.form.operator? 0 l.parts
      else [] := by
  cases l
  rw [nodes]
  rfl

theorem Layout.found_eq (accepts : Form → Path → Bool) (l : Layout) (path : Path) :
    l.found accepts path =
      if accepts l.form path then [⟨l.span, l.form⟩]
      else if l.form.descends then foundAmong accepts path l.form.operator? 0 l.parts
      else [] := by
  cases l
  rw [found]
  rfl

/-! ## Outermost nodes -/

mutual

/-- A node of a layout has the ancestors that the layout has. -/
theorem Layout.above_subset_of_mem_nodes {n : Node} {path : Path} {above : List (Form × Path)}
    {l : Layout} (h : n ∈ l.nodes path above) : above ⊆ n.above := by
  cases l with
  | node p s e parts =>
    rw [nodes, List.mem_cons] at h
    rcases h with rfl | h
    · exact fun _ ha => ha
    · split at h
      · intro a ha
        exact above_subset_of_mem_nodesAmong h (List.mem_cons_of_mem _ ha)
      · cases h

theorem Layout.above_subset_of_mem_nodesAmong {n : Node} {path : Path} {above : List (Form × Path)}
    {operator : Option Symbol} {index : Nat} {ls : List Layout}
    (h : n ∈ nodesAmong path above operator index ls) : above ⊆ n.above := by
  cases ls with
  | nil => cases h
  | cons l ls =>
    rw [nodesAmong, List.mem_append] at h
    rcases h with h | h
    · exact above_subset_of_mem_nodes h
    · exact above_subset_of_mem_nodesAmong h

end

/-- Below an accepted form, no node is outermost. -/
theorem Layout.filter_nodesAmong {accepts : Form → Path → Bool} {f : Form} {path : Path}
    (h : accepts f path = true) (above : List (Form × Path)) (operator : Option Symbol) (index : Nat)
    (ls : List Layout) :
    (nodesAmong path ((f, path) :: above) operator index ls).filter (·.isOutermost accepts) = [] := by
  rw [List.filter_eq_nil_iff]
  intro n hn ho
  have hf : (f, path) ∈ n.above := above_subset_of_mem_nodesAmong hn List.mem_cons_self
  rw [Place.isOutermost, Bool.and_eq_true, List.all_eq_true] at ho
  have hrejected := ho.2 _ hf
  rw [h] at hrejected
  cases hrejected

mutual

/-- What is found from the outside in are the outermost nodes. -/
theorem Layout.found_eq_outermost {accepts : Form → Path → Bool} {path : Path}
    {above : List (Form × Path)} (h : ∀ a ∈ above, accepts a.1 a.2 = false) (l : Layout) :
    l.found accepts path = ((l.nodes path above).filter (·.isOutermost accepts)).map Node.toMatch := by
  cases l with
  | node p s e parts =>
    have habove : (above.all fun a => !accepts a.1 a.2) = true := by
      rw [List.all_eq_true]
      intro a ha
      rw [h a ha]
      rfl
    rw [found, nodes, List.filter_cons, Place.isOutermost, habove, Bool.and_true]
    by_cases hacc : accepts p.form path = true
    · rw [if_pos hacc, if_pos hacc]
      split
      · rw [filter_nodesAmong hacc]
        rfl
      · rfl
    · rw [if_neg hacc, if_neg hacc]
      split
      · have hall : ∀ a ∈ (p.form, path) :: above, accepts a.1 a.2 = false := by
          intro a ha
          rcases List.mem_cons.1 ha with rfl | ha
          · exact Bool.eq_false_iff.2 hacc
          · exact h a ha
        exact foundAmong_eq_outermost hall p.form.operator? 0 parts
      · rfl

theorem Layout.foundAmong_eq_outermost {accepts : Form → Path → Bool} {path : Path}
    {above : List (Form × Path)} (h : ∀ a ∈ above, accepts a.1 a.2 = false) (operator : Option Symbol)
    (index : Nat) (ls : List Layout) :
    foundAmong accepts path operator index ls =
      ((nodesAmong path above operator index ls).filter (·.isOutermost accepts)).map Node.toMatch := by
  cases ls with
  | nil => rfl
  | cons l ls =>
    rw [foundAmong, nodesAmong, List.filter_append, List.map_append, found_eq_outermost h l,
      foundAmong_eq_outermost h operator (index + 1) ls]

end

end Reading

/-! ## Rules -/

/-- The rule accepts no atom but the target itself. -/
def Rule.RejectsOtherAtoms (rule : Rule) (target : Symbol) : Prop :=
  ∀ f path, f.isCompound = false → f ≠ .symbol target → rule target f path = false

theorem Form.isSymbol_iff {target : Symbol} {f : Form} :
    f.isSymbol target = true ↔ f = .symbol target := by
  cases f <;> simp [isSymbol]

theorem Form.listItems_of_not_isCompound {f : Form} (h : f.isCompound = false) :
    f.listItems = [] := by
  cases f <;> first | rfl | cases h

/-- The rules of all kinds accept no atom but the target. -/
theorem Kind.rejectsOtherAtoms {kind : Kind} {rule : Rule} (h : kind.rule = .ok rule)
    (target : Symbol) : rule.RejectsOtherAtoms target := by
  have hcall : Rule.RejectsOtherAtoms isCall target := by
    intro f path hc _
    rw [isCall, Form.operator?, Form.listItems_of_not_isCompound hc]
    rfl
  intro f path hc hf
  cases kind with
  | function =>
    cases h
    rw [isFunctionReference, Form.listItems_of_not_isCompound hc]
  | macroCall =>
    cases h
    exact hcall f path hc hf
  | specialForm =>
    cases h
    exact hcall f path hc hf
  | variableUse =>
    cases h
    have hn : f.isSymbol target = false := by
      rw [Bool.eq_false_iff]
      exact fun hs => hf (Form.isSymbol_iff.1 hs)
    rw [isVariableReference, hn, Bool.false_and]
  | symbol => cases h

/-! ## Walking -/

/-- The references among the forms that a walk looked at. -/
def references (vs : List Visit) : List Match :=
  (vs.filter (·.accepted)).map fun v => ⟨v.span, v.form⟩

theorem references_append (vs ws : List Visit) : references
    (vs ++ ws) = references vs ++ references ws := by
  rw [references, List.filter_append, List.map_append]
  rfl

section Walk

variable {known : CharacterNames}
variable {text : Text} {target : Symbol} {accepts : Form → Path → Bool} {f : Form} {path : Path}

theorem visits_of_accepted (h : accepts f path = true) (span : Span) :
    visits text target accepts f span path = .ok [⟨f, span, path, true⟩] := by
  rw [visits.eq_def, if_pos h]

theorem visits_of_not_descends (h : accepts f path = false) (hd : f.descends = false)
    (span : Span) : visits text target accepts f span path = .ok [⟨f, span, path, false⟩] := by
  rw [visits.eq_def, h]
  cases f <;> first | rfl | cases hd

theorem visits_of_descends {span : Span} {spans : List Span} {vs : List Visit}
    (h : accepts f path = false) (hd : f.descends = true)
    (hs : neededSpans text target f.children span = .ok spans)
    (hv : visitsItems text target accepts f.children spans f.operator? 0 path = .ok vs) :
    visits text target accepts f span path = .ok (⟨f, span, path, false⟩ :: vs) := by
  rw [visits.eq_def, h]
  cases f with
  | list items | vector kind items =>
    simp only [Form.children] at hs hv
    simp only [Bool.false_eq_true, if_false, hs, hv]
    rfl
  | _ => cases hd

theorem visitsItems_nil [CharacterNames] (text : Text) (target : Symbol)
    (accepts : Form → Path → Bool) (items : List Form) (operator : Option Symbol) (index : Nat)
    (path : Path) : visitsItems text target accepts items [] operator index path = .ok [] := by
  cases items <;> rw [visitsItems] <;> nofun

namespace Reading

/-- Walking the form of a layout finds the matches of the layout. -/
def Layout.Walks [CharacterNames] (text : Text) (target : Symbol) (accepts : Form → Path → Bool)
    (l : Layout) : Prop :=
  ∀ path, ∃ vs, visits text target accepts l.form l.span path = .ok vs ∧
    references vs = l.found accepts path

theorem Layout.walks_of_not_descends {l : Layout} (hd : l.form.descends = false) :
    l.Walks text target accepts := by
  intro path
  by_cases h : accepts l.form path = true
  · refine ⟨_, visits_of_accepted h l.span, ?_⟩
    rw [found_eq, if_pos h]
    rfl
  · refine ⟨_, visits_of_not_descends (Bool.eq_false_iff.2 h) hd l.span, ?_⟩
    rw [found_eq, if_neg h, hd]
    rfl

theorem Layout.found_of_not_mayMatter
    (hrejects : ∀ f path, f.mayMatter target = false → accepts f path = false) {l : Layout}
    (h : l.form.mayMatter target = false) (path : Path) : l.found accepts path = [] := by
  have hd : l.form.descends = false := by
    cases hd : l.form.descends with
    | false => rfl
    | true =>
      rw [Form.mayMatter, Form.isCompound_of_descends hd] at h
      cases h
  rw [found_eq, hrejects _ _ h, hd]
  rfl

theorem Layout.foundAmong_of_not_mayMatter
    (hrejects : ∀ f path, f.mayMatter target = false → accepts f path = false) {ls : List Layout}
    (h : ∀ l ∈ ls, l.form.mayMatter target = false) (operator : Option Symbol) (index : Nat)
    (path : Path) : foundAmong accepts path operator index ls = [] := by
  induction ls generalizing index with
  | nil => rfl
  | cons l ls ih =>
    rw [foundAmong, found_of_not_mayMatter hrejects (h l List.mem_cons_self),
      ih (fun l' hl' => h l' (List.mem_cons_of_mem _ hl')), List.nil_append]

/-- Items that cannot matter are passed over, and nothing is lost. -/
theorem Layout.visitsItems_walks
    (hrejects : ∀ f path, f.mayMatter target = false → accepts f path = false) {ls : List Layout}
    (h : ∀ l ∈ ls, l.Walks text target accepts) (operator : Option Symbol) (index : Nat) (path : Path) :
    ∃ vs, visitsItems text target accepts (ls.map form) (ls.map span) operator index path = .ok vs ∧
      references vs = foundAmong accepts path operator index ls := by
  induction ls generalizing index with
  | nil => exact ⟨[], rfl, rfl⟩
  | cons l ls ih =>
    obtain ⟨ws, hws, href⟩ := ih (fun l' hl' => h l' (List.mem_cons_of_mem _ hl')) (index + 1)
    rw [List.map_cons, List.map_cons, visitsItems, foundAmong]
    cases hm : l.form.mayMatter target with
    | true =>
      obtain ⟨vs, hvs, hfound⟩ := h l List.mem_cons_self (⟨operator, index⟩ :: path)
      refine ⟨vs ++ ws, ?_, ?_⟩
      · simp only [if_true, hvs, hws]
        rfl
      · rw [references_append, hfound, href]
    | false =>
      refine ⟨ws, ?_, ?_⟩
      · simp only [Bool.false_eq_true, if_false, hws]
        rfl
      · rw [found_of_not_mayMatter hrejects hm, href, List.nil_append]

/-- The items that a walk goes down into are the forms of the parts. -/
theorem Laid.children_eq {l : Layout} (hl : Laid text l) (hd : l.form.descends = true) :
    l.form.children = l.parts.map Layout.form := by
  rw [hl.parts_form]
  cases hf : l.form <;> first | rfl | (rw [hf] at hd; cases hd)

/-- Working out the spans of the items does not fail. -/
theorem Laid.neededSpans_eq {l : Layout} (hl : Laid text l) (target : Symbol)
    (hd : l.form.descends = true) : neededSpans text target l.form.children l.span =
      if l.form.children.any (·.mayMatter target) then .ok (l.parts.map Layout.span) else .ok [] := by
  rw [neededSpans, (hl.compound (Form.isCompound_of_descends hd)).1]

/-- Walking a form that was read finds its matches if walking its parts does. -/
theorem Laid.walks_of_parts
    (hrejects : ∀ f path, f.mayMatter target = false → accepts f path = false) {l : Layout}
    (hl : Laid text l) (h : ∀ l' ∈ l.parts, l'.Walks text target accepts) :
    l.Walks text target accepts := by
  cases hd : l.form.descends with
  | false => exact Layout.walks_of_not_descends hd
  | true =>
    intro path
    by_cases hacc : accepts l.form path = true
    · refine ⟨_, visits_of_accepted hacc l.span, ?_⟩
      rw [Layout.found_eq, if_pos hacc]
      rfl
    · have hchildren := hl.children_eq hd
      have hneeded := hl.neededSpans_eq target hd
      rw [Layout.found_eq, if_neg hacc, hd]
      split at hneeded
      · obtain ⟨vs, hvs, href⟩ := Layout.visitsItems_walks hrejects h l.form.operator? 0 path
        rw [← hchildren] at hvs
        exact ⟨_, visits_of_descends (Bool.eq_false_iff.2 hacc) hd hneeded hvs, href⟩
      · rename_i hany
        -- No item can matter, so no spans are worked out and nothing is looked at.
        have hnone : ∀ l' ∈ l.parts, l'.form.mayMatter target = false := by
          intro l' hl'
          rw [hchildren, Bool.not_eq_true, List.any_eq_false] at hany
          exact Bool.eq_false_iff.2 (hany _ (List.mem_map_of_mem hl'))
        have hvs := visitsItems_nil text target accepts l.form.children l.form.operator? 0 path
        refine ⟨_, visits_of_descends (Bool.eq_false_iff.2 hacc) hd hneeded hvs, ?_⟩
        exact (Layout.foundAmong_of_not_mayMatter hrejects hnone _ _ _).symm

theorem Laid.walks (hrejects : ∀ f path, f.mayMatter target = false → accepts f path = false)
    {l : Layout} (h : Laid text l) : l.Walks text target accepts :=
  h.induction_on_parts (fun _ => Layout.walks_of_not_descends rfl) (Laid.walks_of_parts hrejects)

end Reading

end Walk

/-! ## The laws -/

theorem Form.places_of_descends {f : Form} (h : f.descends = true) (path : Path)
    (above : List (Form × Path)) :
    f.places path above =
      ⟨f, path, above⟩ :: placesAmong path ((f, path) :: above) f.operator? 0 f.elements := by
  cases f with
  | list items | vector kind items => rfl
  | _ => cases h

theorem Form.places_of_not_descends {f : Form} (h : f.descends = false) (path : Path)
    (above : List (Form × Path)) : f.places path above = [⟨f, path, above⟩] := by
  cases f with
  | list items | vector kind items => cases h
  | _ => rfl

namespace Reading

theorem Layout.nodesAmong_places {ls : List Layout}
    (h : ∀ l ∈ ls, ∀ path above, (l.nodes path above).map Node.toPlace = l.form.places path above)
    (path : Path) (above : List (Form × Path)) (operator : Option Symbol) (index : Nat) :
    (nodesAmong path above operator index ls).map Node.toPlace =
      Form.placesAmong path above operator index (ls.map form) := by
  induction ls generalizing index with
  | nil => rfl
  | cons l ls ih =>
    rw [nodesAmong, List.map_append, h l List.mem_cons_self,
      ih fun l' hl' => h l' (List.mem_cons_of_mem _ hl')]
    rfl

variable {known : CharacterNames}

/-- The nodes of a layout stand for all places in its form. -/
theorem Laid.nodes_places {text : Text} {l : Layout} (h : Laid text l) :
    ∀ path above, (l.nodes path above).map Node.toPlace = l.form.places path above := by
  refine h.induction_on_parts
    (P := fun l => ∀ path above, (l.nodes path above).map Node.toPlace = l.form.places path above) ?_ ?_
  · exact fun _ _ _ => rfl
  · intro l hl hparts path above
    rw [Layout.nodes_eq]
    cases hd : l.form.descends with
    | true =>
      rw [Form.places_of_descends hd, ← hl.parts_form, ← Layout.nodesAmong_places hparts]
      rfl
    | false =>
      rw [Form.places_of_not_descends hd]
      rfl

theorem Layout.stands_of_mem_nodesAmong {text : Text} {ls : List Layout}
    (h : ∀ l ∈ ls, ∀ path above, ∀ n ∈ l.nodes path above, n.Stands text) {path : Path}
    {above : List (Form × Path)} {operator : Option Symbol} {index : Nat} {n : Node}
    (hn : n ∈ nodesAmong path above operator index ls) : n.Stands text := by
  induction ls generalizing index with
  | nil => cases hn
  | cons l ls ih =>
    rw [nodesAmong, List.mem_append] at hn
    rcases hn with hn | hn
    · exact h l List.mem_cons_self _ _ n hn
    · exact ih (fun l' hl' => h l' (List.mem_cons_of_mem _ hl')) hn

/-- The regions of nodes are right. -/
theorem Laid.stands_of_mem_nodes {text : Text} {l : Layout} (h : Laid text l) :
    ∀ path above, ∀ n ∈ l.nodes path above, n.Stands text := by
  refine h.induction_on_parts
    (P := fun l => ∀ path above, ∀ n ∈ l.nodes path above, n.Stands text) ?_ ?_
  · intro m s q hx path above n hn
    rw [Layout.nodes_eq] at hn
    cases List.mem_singleton.1 hn
    obtain ⟨ht, _⟩ := hx.spelled
    have hs : s ≤ text.length := Nat.le_trans (Nat.le_of_lt hx.bounds.1) hx.bounds.2
    exact .inr ⟨m, rfl, slice_of_drop ht hs⟩
  · intro l hl hparts path above n hn
    rw [Layout.nodes_eq] at hn
    rcases List.mem_cons.1 hn with rfl | hn
    · exact .inl hl.readsAt
    · split at hn
      · exact Layout.stands_of_mem_nodesAmong hparts hn
      · cases hn

end Reading

theorem Rule.RejectsOtherAtoms.of_not_mayMatter {rule : Rule} {target : Symbol}
    (h : rule.RejectsOtherAtoms target) (f : Form) (path : Path) (hm : f.mayMatter target = false) :
    rule target f path = false := by
  rw [Form.mayMatter, Bool.or_eq_false_iff] at hm
  refine h f path hm.1 fun hf => ?_
  rw [Form.isSymbol_iff.2 hf] at hm
  cases hm.2

section

variable {known : CharacterNames}

/-- Walking a form with a layout gives what is found from the outside in. -/
theorem walk_eq_found {text : Text} {target : Symbol} {rule : Rule}
    (hr : rule.RejectsOtherAtoms target) {l : Layout} (hl : Laid text l) (path : Path) :
    walk text target rule l.form l.span path = .ok (l.found (rule target) path) := by
  obtain ⟨vs, hvs, href⟩ := hl.walks hr.of_not_mayMatter path
  rw [walk, hvs, ← href]
  rfl

/-- A walk finds the outermost nodes that the rule accepts, in the order of the text,
each with its region. The rules of all kinds qualify. -/
theorem walk_outermost {text : Text} {forms : List Positioned} (h : readAll text = .ok forms) :
    (∀ p ∈ forms, ∃ l, Laid text l ∧ l.positioned = p ∧
      (l.nodes [] []).map Node.toPlace = p.form.places [] [] ∧ (∀ n ∈ l.nodes [] [], n.Stands text) ∧
      ∀ target rule, Rule.RejectsOtherAtoms rule target →
        walk text target rule p.form p.span [] =
          .ok (((l.nodes [] []).filter (·.isOutermost (rule target))).map Node.toMatch)) ∧
    ∀ kind rule target, Kind.rule kind = .ok rule → Rule.RejectsOtherAtoms rule target := by
  refine ⟨fun p hp => ?_, fun kind rule target hk => Kind.rejectsOtherAtoms hk target⟩
  obtain ⟨ls, hall, _, rfl⟩ := exists_row_of_readAll h
  obtain ⟨l, hl, rfl⟩ := List.mem_map.1 hp
  have hlaid := hall l hl
  refine ⟨l, hlaid, rfl, hlaid.nodes_places [] [], hlaid.stands_of_mem_nodes [] [], ?_⟩
  intro target rule hr
  have hnone : ∀ a ∈ ([] : List (Form × Path)), rule target a.1 a.2 = false := fun _ ha => nomatch ha
  rw [← Layout.found_eq_outermost hnone l]
  exact walk_eq_found hr hlaid []

end

open SomeNames

theorem walk_outermost_nested_call :
    ∃ l, Laid (Text.of "(a (f (f b)))") l ∧
      walk (Text.of "(a (f (f b)))") (.named "f") isCall l.form l.span [] =
        .ok (((l.nodes [] []).filter (·.isOutermost (isCall (.named "f")))).map Node.toMatch) := by
  have hread : readAll (Text.of "(a (f (f b)))") =
      .ok [⟨.list [.symbol (.named "a"), .list [.symbol (.named "f"),
        .list [.symbol (.named "f"), .symbol (.named "b")]]], .ofNat 0 13,
        [⟨.named "a", 1, 1⟩, ⟨.named "f", 4, 1⟩, ⟨.named "f", 7, 1⟩, ⟨.named "b", 9, 1⟩]⟩] := by
    decide +kernel
  obtain ⟨hforms, hrules⟩ := walk_outermost hread
  obtain ⟨l, hl, hp, _, _, hwalk⟩ := hforms _ (List.mem_singleton.2 rfl)
  rw [← hp] at hwalk
  exact ⟨l, hl, hwalk (.named "f") isCall (hrules .macroCall isCall _ rfl)⟩

end LispXref
