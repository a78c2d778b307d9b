-- The parameters of definitions, as a search for variables sees them. A parameter list has
-- its first parameter as operator, so this one stands where the head of a call would. Main
-- statement: all parameters but the first are variables, and the first is one only if the
-- definition stands in a list of bindings.
import LispXref.Proofs.Uses
import LispXref.Reading.SomeNames

namespace LispXref

open Reading

/-! ## Definitions -/

/-- A definition stands in the text, with a path; its parameters are `names`, and they take
up `spans`. -/
inductive Defines [CharacterNames] (text : Text) (names : List Symbol) (path : Path)
    (spans : List Span) : Prop
  | intro {definer : Symbol} {name : Form} {body : List Form} {whole inner : Span}
      {parts : List Span} :
      definer ∈ definers →
      Placed text (.list (.symbol definer :: name :: .list (names.map .symbol) :: body)) path whole →
      childSpans text whole = .ok parts → parts[2]? = some inner →
      childSpans text inner = .ok spans → Defines text names path spans

/-- The path of a parameter. -/
def parameterPath (definer : Symbol) (names : List Symbol) (i : Nat) (path : Path) : Path :=
  ⟨names.head?, i⟩ :: ⟨some definer, 2⟩ :: path

/-- The operator of a parameter list is the first parameter. -/
theorem Form.operator?_map_symbol (names : List Symbol) :
    (Form.list (names.map .symbol)).operator? = names.head? := by
  cases names <;> rfl

section Parameters

variable {known : CharacterNames}
variable {text : Text} {names : List Symbol} {path : Path} {spans : List Span} {i : Nat} {p : Symbol}
  {s : Span}

theorem Defines.placed (h : Defines text names path spans) (hp : names[i]? = some p)
    (hs : spans[i]? = some s) :
    ∃ definer ∈ definers, Placed text (.symbol p) (parameterPath definer names i path) s := by
  obtain @⟨definer, name, body, whole, inner, parts, hdefiner, hwhole, hparts, hinner, hspans⟩ := h
  have hlist := Placed.item (i := 2) hwhole hparts rfl hinner
  have hparameter : (Form.list (names.map .symbol)).children[i]? = some (.symbol p) := by
    rw [Form.children, List.getElem?_map, hp]
    rfl
  have hplaced := hlist.item hspans hparameter hs
  rw [Form.operator?_map_symbol] at hplaced
  exact ⟨definer, hdefiner, hplaced⟩

/-- The first parameter has the path of a head, every other one that of an argument. A head
counts as a variable two levels below the place of a binding list, where the definition is
then taken for the list. -/
theorem isVariableReference_parameterPath {definer : Symbol} (hdefiner : definer ∈ definers)
    (hp : names[i]? = some p) :
    isVariableReference p (.symbol p) (parameterPath definer names i path) = true ↔
      0 < i ∨ path.isAt 0 bindingSlots = true := by
  have hslot : Path.isAt (⟨some definer, 2⟩ :: path) 0 parameterSlots = true := by
    simpa [Path.isAt, parameterSlots] using hdefiner
  cases i with
  | zero =>
    have hpath : parameterPath definer names 0 path = headPath p (⟨some definer, 2⟩ :: path) := by
      rw [parameterPath, List.head?_eq_getElem?, hp]
      rfl
    rw [hpath, isVariableReference_headPath, Path.isAt_bindingSlots hslot, Bool.false_or]
    exact (or_iff_right (Nat.lt_irrefl 0)).symm
  | succ i =>
    refine iff_of_true ?_ (.inl i.succ_pos)
    by_contra hrejected
    obtain ⟨outer, houter⟩ := exists_headPath (Bool.eq_false_iff.2 hrejected)
    simp only [parameterPath, headPath, List.cons.injEq, Frame.mk.injEq] at houter
    omega

end Parameters

section

variable {known : CharacterNames}

/-- A search for variables matches a parameter of a definition if it is not the first one, or
if the definition stands where a list of bindings is expected. The parameter is any token of
the list, also one of a symbol that a mark can stand for. -/
theorem parameter_matched_iff {text : Text} {forms : List Positioned}
    (hread : readAll text = .ok forms) {names : List Symbol} {path : Path} {spans : List Span}
    (hdefines : Defines text names path spans) {i : Nat} {p : Symbol} (hp : names[i]? = some p)
    {ts : List Match} (hts : searchText p .symbol text = .ok ts) {t : Match} (ht : t ∈ ts)
    (hspan : spans[i]? = some t.span) :
    ∃ ms, searchText p .variableUse text = .ok ms ∧
      ((∃ m ∈ ms, m.span = t.span) ↔ 0 < i ∨ path.isAt 0 bindingSlots = true) := by
  obtain ⟨definer, hdefiner, hplaced⟩ := hdefines.placed hp hspan
  obtain ⟨ls, hall, _, rfl⟩ := exists_row_of_readAll hread
  have hsearch := searchText_of_row hread hall p .variableUse
  refine ⟨_, hsearch, ?_⟩
  rw [← isVariableReference_parameterPath hdefiner hp]
  constructor
  · rintro ⟨m, hm, hm'⟩
    have hk : Kind.variableUse.rule = .ok isVariableReference := rfl
    obtain ⟨path', hmatched, hacc⟩ := exists_placed_of_mem_searchText hread hk hsearch hm
    rw [hm'] at hmatched
    obtain ⟨hform, rfl⟩ := hplaced.unique hmatched hread
    exact hform ▸ hacc
  · intro hacc
    obtain ⟨ms, hms, hm⟩ := hplaced.mem_searchText_of_token hread hts ht hacc
    obtain rfl := Except.ok.inj (hms.symm.trans hsearch)
    exact ⟨_, hm, rfl⟩

end

open SomeNames

theorem parameter_matched_iff_two_names :
    let text := Text.of "(defmacro f (quote b) 'b)"
    (∃ ms, searchText (.named "quote") .variableUse text = .ok ms ∧
      ¬ ∃ m ∈ ms, m.span = .ofNat 13 18) ∧
    ∃ ms, searchText (.named "b") .variableUse text = .ok ms ∧ ∃ m ∈ ms, m.span = .ofNat 19 20 := by
  intro text
  let names : List Symbol := [.named "quote", .named "b"]
  let definition : Form := .list [.symbol (.named "defmacro"), .symbol (.named "f"),
    .list (names.map .symbol), .quoted (.symbol (.named "b"))]
  have hread : readAll text = .ok [⟨definition, .ofNat 0 25, [⟨.named "defmacro", 1, 8⟩,
      ⟨.named "f", 10, 1⟩, ⟨.named "quote", 13, 5⟩, ⟨.named "b", 19, 1⟩, ⟨.named "b", 23, 1⟩]⟩] := by
    decide +kernel
  have hparts : childSpans text (.ofNat 0 25) =
      .ok [.ofNat 1 9, .ofNat 10 11, .ofNat 12 21, .ofNat 22 24] := by decide +kernel
  have hspans : childSpans text (.ofNat 12 21) = .ok [.ofNat 13 18, .ofNat 19 20] := by decide +kernel
  have hplaced : Placed text definition [] (.ofNat 0 25) := .top hread List.mem_cons_self
  have hdefines : Defines text names [] [.ofNat 13 18, .ofNat 19 20] :=
    .intro (by decide) hplaced hparts rfl hspans
  have hquote : searchText (.named "quote") .symbol text =
      .ok [⟨.ofNat 13 18, .symbol (.named "quote")⟩] := by decide +kernel
  have hb : searchText (.named "b") .symbol text =
      .ok [⟨.ofNat 19 20, .symbol (.named "b")⟩, ⟨.ofNat 23 24, .symbol (.named "b")⟩] := by
    decide +kernel
  constructor
  · obtain ⟨ms, hms, hiff⟩ :=
      parameter_matched_iff hread hdefines (i := 0) rfl hquote List.mem_cons_self rfl
    exact ⟨ms, hms, mt hiff.1 (by decide)⟩
  · obtain ⟨ms, hms, hiff⟩ :=
      parameter_matched_iff hread hdefines (i := 1) rfl hb List.mem_cons_self rfl
    exact ⟨ms, hms, hiff.2 (by decide)⟩

/-- Of two parameters of a definition, the search reports the second and not the first. -/
theorem first_parameter_not_matched :
    let text := Text.of "(defun f (a b))"
    Defines text [.named "a", .named "b"] [] [.ofNat 10 11, .ofNat 12 13] ∧
      searchText (.named "a") .variableUse text = .ok [] ∧
      searchText (.named "b") .variableUse text = .ok [⟨.ofNat 12 13, .symbol (.named "b")⟩] := by
  intro text
  let definition : Form := .list [.symbol (.named "defun"), .symbol (.named "f"),
    .list [.symbol (.named "a"), .symbol (.named "b")]]
  have hread : readAll text = .ok [⟨definition, .ofNat 0 15, [⟨.named "defun", 1, 5⟩,
      ⟨.named "f", 7, 1⟩, ⟨.named "a", 10, 1⟩, ⟨.named "b", 12, 1⟩]⟩] := by decide +kernel
  have hparts : childSpans text (.ofNat 0 15) = .ok [.ofNat 1 6, .ofNat 7 8, .ofNat 9 14] := by
    decide +kernel
  have hspans : childSpans text (.ofNat 9 14) = .ok [.ofNat 10 11, .ofNat 12 13] := by decide +kernel
  have hplaced : Placed text definition [] (.ofNat 0 15) := .top hread List.mem_cons_self
  refine ⟨.intro (by decide) hplaced hparts rfl hspans, ?_⟩
  decide +kernel

end LispXref
