-- What the tokens of a symbol are used for. Main statement: outside of dotted lists every
-- token is a variable, the head of a call or the first name in a parameter list, and no token
-- is two of these.
import LispXref.Proofs.Placed
import LispXref.Reading.SomeNames
import Mathlib.Logic.ExistsUnique

namespace LispXref

open Reading

/-! ## Uses -/

/-- What a token of a symbol is used for. -/
inductive Use where
  | value
  | call
  /-- First in a parameter list, where a symbol looks like the head of a call. -/
  | parameter
  deriving DecidableEq

/-- The token at `s` is the head of the list that is placed with a path and a span. -/
def Heads [CharacterNames] (text : Text) (target : Symbol) (s : Span) (f : Form) (path : Path)
    (span : Span) : Prop :=
  Placed text f path span ∧ (∃ items, f = .list (.symbol target :: items)) ∧
    ∃ spans, childSpans text span = .ok (s :: spans)

/-- How searches and paths show a use of the token at `s`. -/
def UsedAs [CharacterNames] (text : Text) (target : Symbol) (s : Span) : Use → Prop
  | .value => ∃ ms, searchText target .variableUse text = .ok ms ∧ ∃ m ∈ ms, m.span = s
  | .call => ∃ f path span, Heads text target s f path span ∧ isCall target f path = true ∧
      ∃ ms, searchText target .macroCall text = .ok ms ∧ ∃ m ∈ ms, span.Within m.span
  | .parameter => ∃ f path span, Heads text target s f path span ∧
      path.isAt 0 parameterSlots = true ∧ path.isAt 1 bindingSlots = false

/-- The use of a symbol, from its path alone. -/
def Path.use (target : Symbol) (path : Path) : Use :=
  if isVariableReference target (.symbol target) path then .value
  else if path.isAt 1 parameterSlots then .parameter
  else .call

/-! ## Heads of lists -/

/-- The path of a head. -/
def headPath (target : Symbol) (path : Path) : Path := ⟨some target, 0⟩ :: path

/-- No place is that of a parameter list and of a binding list. -/
theorem Path.isAt_bindingSlots {path : Path} {depth : Nat}
    (h : path.isAt depth parameterSlots = true) : path.isAt depth bindingSlots = false := by
  unfold isAt at h ⊢
  split at h
  · simp only [parameterSlots, List.mem_map, decide_eq_true_eq] at h
    obtain ⟨_, _, rfl⟩ := h
    simp [bindingSlots]
  · cases h

/-- A head is a variable only in a binding list or in a binding. -/
theorem isVariableReference_headPath (target : Symbol) (path : Path) :
    isVariableReference target (.symbol target) (headPath target path) =
      (path.isAt 0 bindingSlots || path.isAt 1 bindingSlots) := by
  unfold isVariableReference headPath Path.isAt
  simp [Form.isSymbol]

/-- Whatever is no variable is a head. -/
theorem exists_headPath {target : Symbol} {path : Path}
    (h : isVariableReference target (.symbol target) path = false) :
    ∃ outer, path = headPath target outer := by
  unfold isVariableReference at h
  cases path with
  | nil => simp [Form.isSymbol] at h
  | cons frame outer =>
    have hframe : frame = ⟨some target, 0⟩ := by simp_all [Form.isSymbol]
    exact ⟨outer, by rw [hframe]; rfl⟩

section Heads

variable {known : CharacterNames}
variable {text : Text} {forms : List Positioned} {target : Symbol} {f : Form} {path : Path}
  {s span : Span}

theorem Heads.placed (h : Heads text target s f path span) :
    Placed text (.symbol target) (headPath target path) s := by
  obtain ⟨hplaced, ⟨items, rfl⟩, spans, hspans⟩ := h
  exact .item (i := 0) hplaced hspans rfl rfl

theorem Heads.operator (h : Heads text target s f path span) : f.operator? = some target := by
  obtain ⟨_, ⟨items, rfl⟩, _⟩ := h
  rfl

/-- A symbol with the path of a head is the head of a list. -/
theorem Placed.exists_heads (h : Placed text (.symbol target) (headPath target path) s) :
    ∃ f span, Heads text target s f path span := by
  generalize hp : headPath target path = p at h
  generalize hx : Form.symbol target = x at h
  cases h with
  | top => cases hp
  | @item f _ outer span _ spans i hplaced hspans hg hs =>
    subst hx
    simp only [headPath, List.cons.injEq, Frame.mk.injEq] at hp
    obtain ⟨⟨hoperator, hindex⟩, rfl⟩ := hp
    obtain rfl : i = 0 := by omega
    refine ⟨f, span, hplaced, ?_, ?_⟩
    · cases f with
      | list items =>
        rw [Form.children, ← List.head?_eq_getElem?] at hg
        obtain ⟨rest, rfl⟩ := List.head?_eq_some_iff.1 hg
        exact ⟨rest, rfl⟩
      | vector kind items => cases hoperator
      | _ => cases hg
    · rw [← List.head?_eq_getElem?] at hs
      obtain ⟨rest, rfl⟩ := List.head?_eq_some_iff.1 hs
      exact ⟨rest, hspans⟩

/-! ## One use for each token -/

/-- A use that searches and paths show is the use that the path of the symbol gives. -/
theorem Placed.use_eq (h : Placed text (.symbol target) path s) (hread : readAll text = .ok forms)
    {use : Use} (hused : UsedAs text target s use) : path.use target = use := by
  have hpath : ∀ {f outer span}, Heads text target s f outer span → path = headPath target outer :=
    fun hheads => (h.unique hheads.placed hread).2
  unfold Path.use
  cases use with
  | value =>
    obtain ⟨ms, hsearch, m, hm, rfl⟩ := hused
    have hrule : Kind.rule .variableUse = .ok isVariableReference := rfl
    obtain ⟨path', hplaced, hacc⟩ :=
      exists_placed_of_mem_searchText hread hrule hsearch hm
    obtain ⟨hform, rfl⟩ := h.unique hplaced hread
    rw [hform, if_pos hacc]
  | call =>
    obtain ⟨f, outer, span, hheads, hcall, _⟩ := hused
    rw [hpath hheads, isVariableReference_headPath]
    simp only [isCall, Path.inBindingPosition, Bool.and_eq_true, Bool.not_eq_true',
      Bool.or_eq_false_iff] at hcall
    obtain ⟨_, ⟨hparameter, hlist⟩, hbinding⟩ := hcall
    have hplace : (headPath target outer).isAt 1 parameterSlots = false := hparameter
    simp [hlist, hbinding, hplace]
  | parameter =>
    obtain ⟨f, outer, span, hheads, hparameter, hbinding⟩ := hused
    rw [hpath hheads, isVariableReference_headPath, Path.isAt_bindingSlots hparameter, hbinding]
    exact if_pos hparameter

/-- The use that its path gives a symbol is shown by searches and paths. -/
theorem Placed.usedAs (h : Placed text (.symbol target) path s) (hread : readAll text = .ok forms)
    (ht : ∀ m : Shorthand, m.head ≠ target) : UsedAs text target s (path.use target) := by
  unfold Path.use
  split
  · rename_i hacc
    obtain ⟨ms, hsearch, hm⟩ := h.mem_searchText hread ht hacc
    exact ⟨ms, hsearch, _, hm, rfl⟩
  · rename_i hrejected
    have hrejected := Bool.eq_false_iff.2 hrejected
    obtain ⟨outer, rfl⟩ := exists_headPath hrejected
    obtain ⟨f, span, hheads⟩ := h.exists_heads
    rw [isVariableReference_headPath, Bool.or_eq_false_iff] at hrejected
    split
    · rename_i hparameter
      exact ⟨f, outer, span, hheads, hparameter, hrejected.2⟩
    · rename_i hparameter
      have hcall : isCall target f outer = true := by
        have hplace : outer.isAt 0 parameterSlots = false := Bool.eq_false_iff.2 hparameter
        simp [isCall, Path.inBindingPosition, hheads.operator, hplace, hrejected]
      exact ⟨f, outer, span, hheads, hcall, hheads.1.exists_match hread rfl ht hcall⟩

end Heads

section

variable {known : CharacterNames}

/-- Every token of a symbol outside of dotted lists has one use: it is a match of the search
for variables, or the head of a call in a match of the search for macros, or the head of a
parameter list. The symbol is not that of a mark, and no text properties are written. -/
theorem token_has_one_use {text : Text} {forms : List Positioned} {target : Symbol}
    (hread : readAll text = .ok forms) (hmark : ¬ propertiesMark <:+: text)
    (ht : ∀ m : Shorthand, m.head ≠ target) :
    ∃ ts, searchText target .symbol text = .ok ts ∧
      ∀ t ∈ ts, ¬ InDottedList text t.span → ∃! use, UsedAs text target t.span use := by
  obtain ⟨ls, hall, _, rfl⟩ := exists_row_of_readAll hread
  refine ⟨_, searchText_of_row hread hall target .symbol, fun t htoken hdotted => ?_⟩
  obtain ⟨l, hl, htoken⟩ := List.mem_flatMap.1 htoken
  split at htoken
  · obtain ⟨o, ho, rfl⟩ := List.mem_map.1 htoken
    obtain ⟨hmem, hsymbol⟩ := List.mem_filter.1 ho
    obtain rfl : o.symbol = target := of_decide_eq_true hsymbol
    obtain ⟨path, hplaced⟩ := exists_placed_token hread hall hmark hl hmem hdotted
    refine ⟨path.use o.symbol, hplaced.usedAs hread ht, fun use hused => ?_⟩
    exact (hplaced.use_eq hread hused).symm
  · cases htoken

end

open SomeNames

theorem token_has_one_use_three_ways :
    let text := Text.of "(defun g (f a) (f f))"
    ∃ ts, searchText (.named "f") .symbol text = .ok ts ∧
      ts.map Match.span = [.ofNat 10 11, .ofNat 16 17, .ofNat 18 19] ∧
      ∀ t ∈ ts, ¬ InDottedList text t.span ∧ ∃! use, UsedAs text (.named "f") t.span use := by
  intro text
  let parameters : Form := .list [.symbol (.named "f"), .symbol (.named "a")]
  let call : Form := .list [.symbol (.named "f"), .symbol (.named "f")]
  let definition : Form := .list [.symbol (.named "defun"), .symbol (.named "g"), parameters, call]
  have hread : readAll text = .ok [⟨definition, .ofNat 0 21, [⟨.named "defun", 1, 5⟩,
      ⟨.named "g", 7, 1⟩, ⟨.named "f", 10, 1⟩, ⟨.named "a", 12, 1⟩, ⟨.named "f", 16, 1⟩,
      ⟨.named "f", 18, 1⟩]⟩] := by decide +kernel
  have hdotted : ∀ s, ¬ InDottedList text s := by
    rintro s ⟨items, tail, path, span, hplaced, _⟩
    have hmem : Form.dotted items tail ∈ [definition, parameters, call, .symbol (.named "defun"),
        .symbol (.named "g"), .symbol (.named "f"), .symbol (.named "a")] :=
      hplaced.mem_of_children hread (by simp) (by decide +kernel)
    simp [definition, parameters, call] at hmem
  have hmarks : ∀ m : Shorthand, m.head ≠ .named "f" := by
    intro m
    cases m <;> decide +kernel
  obtain ⟨ts, hts, hused⟩ := token_has_one_use hread (by decide +kernel) hmarks
  have hfound : searchText (.named "f") .symbol text = .ok [⟨.ofNat 10 11, .symbol (.named "f")⟩,
      ⟨.ofNat 16 17, .symbol (.named "f")⟩, ⟨.ofNat 18 19, .symbol (.named "f")⟩] := by decide +kernel
  obtain rfl := Except.ok.inj (hts.symm.trans hfound)
  exact ⟨_, hts, rfl, fun t ht => ⟨hdotted _, hused t ht (hdotted _)⟩⟩

end LispXref
