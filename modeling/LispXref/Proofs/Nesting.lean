-- Searches of different kinds for the same symbol, side by side. A walk does not go below
-- what it finds, so a rule that accepts more can find less; what it finds lies further out.
-- Main statement: calls lie in function references, and whatever is found for a symbol that
-- is spelled out holds a token of it.
import LispXref.Proofs.Placed
import LispXref.Reading.SomeNames
import Mathlib.Logic.ExistsUnique

namespace LispXref

open Reading

/-! ## Calls and function references -/

/-- A call is a reference to the function, wherever it stands. -/
theorem isFunctionReference_of_isCall {target : Symbol} {f : Form} {path : Path}
    (h : isCall target f path = true) : isFunctionReference target f path = true := by
  unfold isCall Form.operator? at h
  simp only [Bool.and_eq_true, decide_eq_true_eq, Bool.not_eq_true'] at h
  obtain ⟨hoperator, hplace⟩ := h
  split at hoperator
  · rename_i s others hitems
    cases hoperator
    have hhead : (Form.symbol target).isSymbol target = true := Form.isSymbol_iff.2 rfl
    simp only [isFunctionReference, hitems, hplace, hhead, Bool.false_eq_true, if_false, if_true]
  · cases hoperator

/-- Of matches in order, only one holds a given span that is not empty. -/
theorem eq_of_within {ms : List Match} (hpairs : ms.Pairwise fun m n => m.span.stop ≤ n.span.start)
    {m n : Match} (hm : m ∈ ms) (hn : n ∈ ms) {s : Span} (hs : s.start < s.stop)
    (hsm : s.Within m.span) (hsn : s.Within n.span) : m = n := by
  obtain ⟨hmstart, hmstop⟩ := hsm
  obtain ⟨hnstart, hnstop⟩ := hsn
  induction hpairs with
  | nil => cases hm
  | cons hfirst _ ih =>
    rcases List.mem_cons.1 hm with rfl | hm' <;> rcases List.mem_cons.1 hn with rfl | hn'
    · rfl
    · have := hfirst n hn'
      omega
    · have := hfirst m hm'
      omega
    · exact ih hm' hn'

namespace Reading

variable {known : CharacterNames}
variable {text : Text} {l : Layout} {target : Symbol}

/-- Around what is found by one rule, a rule that accepts more finds something. -/
theorem Laid.exists_found_of_imp (h : Laid text l) {accepts accepts' : Form → Path → Bool}
    (himp : ∀ f path, accepts f path = true → accepts' f path = true) {m : Match}
    (hm : m ∈ l.found accepts []) : ∃ n ∈ l.found accepts' [], m.span.Within n.span := by
  obtain ⟨n, hn, rfl, hacc⟩ := Layout.exists_node_of_mem_found hm
  exact h.exists_found [] [] n hn (himp _ _ hacc)

/-! ## Tokens in nodes -/

theorem Layout.mem_tokens {t : Match} :
    t ∈ l.tokens target ↔ ∃ o ∈ l.occurrences, o.symbol = target ∧ o.toMatch = t := by
  simp [tokens, and_assoc]

/-- What stands in brackets is no bare symbol. -/
theorem Bracket.form?_ne_symbol {b : Bracket} {items : List Form} {tail : Option Form} {x : Symbol} :
    b.form? items tail ≠ some (.symbol x) := by
  unfold form?
  repeat' split
  all_goals nofun

/-- A bare symbol is its own token. -/
theorem Laid.occurrences_of_symbol (h : Laid text l) {x : Symbol} (hf : l.form = .symbol x) :
    l.occurrences = [⟨x, l.start, l.stop - l.start⟩] := by
  cases h with
  | @atom s e f hx =>
    obtain rfl : f = .symbol x := (Piece.form_ofAtom s e f).symm.trans hf
    rfl
  | shorthand => cases hf
  | @bracket s q e b items tail p hx hin hfirst hall hb =>
    obtain ⟨hmade, _⟩ := Bracket.build_eq_done.1 hb
    exact absurd (hmade.trans (congrArg some hf)) Bracket.form?_ne_symbol

/-- Every node that holds a symbol has a token of it, which is all of the node if this is the
bare symbol. No mark stands for the symbol. -/
theorem Laid.exists_token_of_mem_nodes (h : Laid text l) (ht : ∀ m : Shorthand, m.head ≠ target) :
    ∀ path above, ∀ n ∈ l.nodes path above, target ∈ n.form.symbols →
      ∃ t ∈ l.tokens target, t.span.Within n.span ∧ (n.form = .symbol target → t.span = n.span) := by
  refine h.induction_on_parts (P := fun l => ∀ path above, ∀ n ∈ l.nodes path above,
    target ∈ n.form.symbols → ∃ t ∈ l.tokens target, t.span.Within n.span ∧
      (n.form = .symbol target → t.span = n.span)) ?_ ?_
  · intro m s q hx path above n hn hs
    cases Layout.eq_of_mem_nodes rfl hn
    exact absurd (List.mem_singleton.1 hs).symm (ht m)
  · intro l hl hparts path above n hn hs
    rcases Layout.mem_nodes.1 hn with rfl | ⟨hd, i, k, hk, hn⟩
    · obtain ⟨o, ho, rfl⟩ := hl.exists_occurrence ht hs
      have hinside := hl.inOrder_occurrences.mem (List.mem_map_of_mem ho)
      refine ⟨o.toMatch, Layout.mem_tokens.2 ⟨o, ho, rfl, rfl⟩, ⟨hinside.1, hinside.2.2⟩, ?_⟩
      intro hform
      rw [hl.occurrences_of_symbol hform] at ho
      rw [List.mem_singleton.1 ho]
      simp only [Occurrence.toMatch, Layout.span, Nat.add_sub_cancel' hl.start_le_stop]
    · have hmem := List.mem_of_getElem? hk
      obtain ⟨t, htoken, hwithin, hspan⟩ := hparts k hmem _ _ n hn hs
      obtain ⟨o, ho, hsymbol, rfl⟩ := Layout.mem_tokens.1 htoken
      have hsub : o ∈ l.occurrences := by
        rw [hl.occurrences_eq (Form.isCompound_of_descends hd)]
        exact List.mem_flatMap.2 ⟨k, hmem, ho⟩
      exact ⟨_, Layout.mem_tokens.2 ⟨o, hsub, hsymbol, rfl⟩, hwithin, hspan⟩

/-! ## The searches of a text -/

/-- The matches of a kind in layouts, one layout after the other. -/
def Layout.matchesAmong (target : Symbol) (ls : List Layout) (kind : Kind) : List Match :=
  ls.flatMap fun l => if l.positioned.mentions target then l.matchesOf target kind else []

theorem Layout.mem_matchesAmong {ls : List Layout} {kind : Kind} {m : Match} :
    m ∈ matchesAmong target ls kind ↔
      ∃ l ∈ ls, l.positioned.mentions target = true ∧ m ∈ l.matchesOf target kind := by
  simp only [matchesAmong, List.mem_flatMap, List.mem_ite_nil_right]

theorem Layout.inOrder_matchesAmong {ls : List Layout} {q e : Nat} (hall : ∀ l ∈ ls, Laid text l)
    (hrow : Row q ls e) (target : Symbol) (kind : Kind) :
    InOrder q (matchesAmong target ls kind) e := by
  refine hrow.inOrder fun l hl => ?_
  split
  · exact (hall l hl).inOrder_matchesOf target kind
  · exact Int.ofNat_le.2 (hall l hl).start_le_stop

/-- Around a call one function reference is found. -/
theorem Layout.existsUnique_function_among {ls : List Layout} {q e : Nat}
    (hall : ∀ l ∈ ls, Laid text l) (hrow : Row q ls e) {kind : Kind} (hk : kind.rule = .ok isCall)
    {m : Match} (hm : m ∈ matchesAmong target ls kind) :
    ∃! n, n ∈ matchesAmong target ls .function ∧ m.span.Within n.span := by
  have hlt := ((inOrder_matchesAmong hall hrow target kind).mem hm).2.1
  have hpairs := (inOrder_matchesAmong hall hrow target .function).pairwise
  obtain ⟨l, hl, hmentions, hm⟩ := mem_matchesAmong.1 hm
  rw [matchesOf_eq hk] at hm
  obtain ⟨n, hfound, hwithin⟩ :=
    (hall l hl).exists_found_of_imp (fun _ _ => isFunctionReference_of_isCall) hm
  have hn : n ∈ matchesAmong target ls .function := mem_matchesAmong.2 ⟨l, hl, hmentions, hfound⟩
  refine ⟨n, ⟨hn, hwithin⟩, ?_⟩
  rintro n' ⟨hn', hwithin'⟩
  exact eq_of_within hpairs hn' hn hlt hwithin' hwithin

/-- Whatever is found by a rule holds a token that is found, and a variable is a token. -/
theorem Layout.exists_token_among {ls : List Layout} (hall : ∀ l ∈ ls, Laid text l)
    (ht : ∀ m : Shorthand, m.head ≠ target) {kind : Kind} {rule : Rule} (hk : kind.rule = .ok rule)
    {m : Match} (hm : m ∈ matchesAmong target ls kind) :
    ∃ t ∈ matchesAmong target ls .symbol, t.span.Within m.span ∧
      (kind = .variableUse → t.span = m.span) := by
  obtain ⟨l, hl, hmentions, hm⟩ := mem_matchesAmong.1 hm
  rw [matchesOf_eq hk] at hm
  obtain ⟨n, hn, rfl, hacc⟩ := exists_node_of_mem_found hm
  have hs := Kind.mem_symbols_of_accepts hk hacc
  obtain ⟨t, htoken, hwithin, hspan⟩ := (hall l hl).exists_token_of_mem_nodes ht [] [] n hn hs
  refine ⟨t, mem_matchesAmong.2 ⟨l, hl, hmentions, htoken⟩, hwithin, ?_⟩
  rintro rfl
  cases hk
  rw [isVariableReference, Bool.and_eq_true] at hacc
  exact hspan (Form.isSymbol_iff.1 hacc.1)

end Reading

section

variable {known : CharacterNames}

/-- The kinds are nested. Every call, of a macro or of a special form, lies in one function
reference. If no mark stands for the target, every variable is a token of the target, every
function reference and call holds one, and without a token nothing is found. -/
theorem searchText_nested {text : Text} {forms : List Positioned} (hread : readAll text = .ok forms)
    (target : Symbol) :
    ∃ found : Kind → List Match, (∀ kind, searchText target kind text = .ok (found kind)) ∧
      (∀ kind ∈ [Kind.macroCall, .specialForm], ∀ m ∈ found kind,
        ∃! n, n ∈ found .function ∧ m.span.Within n.span) ∧
      ((∀ s : Shorthand, s.head ≠ target) →
        (∀ m ∈ found .variableUse, ∃ t ∈ found .symbol, t.span = m.span) ∧
        (∀ kind ∈ [Kind.function, .macroCall, .specialForm], ∀ m ∈ found kind,
          ∃ t ∈ found .symbol, t.span.Within m.span) ∧
        (found .symbol = [] → ∀ kind, found kind = [])) := by
  obtain ⟨ls, hall, hrow, rfl⟩ := exists_row_of_readAll hread
  refine ⟨Layout.matchesAmong target ls, searchText_of_row hread hall target, ?_,
    fun ht => ⟨?_, ?_, ?_⟩⟩
  · intro kind hkind m hm
    have hrule : kind.rule = .ok isCall := by
      rcases List.mem_pair.1 hkind with rfl | rfl <;> rfl
    exact Layout.existsUnique_function_among hall hrow hrule hm
  · intro m hm
    obtain ⟨t, htoken, _, hspan⟩ := Layout.exists_token_among hall ht rfl hm
    exact ⟨t, htoken, hspan rfl⟩
  · intro kind hkind m hm
    obtain ⟨rule, hrule⟩ := Kind.exists_rule (ne_of_mem_of_not_mem hkind (by decide))
    obtain ⟨t, htoken, hwithin, _⟩ := Layout.exists_token_among hall ht hrule hm
    exact ⟨t, htoken, hwithin⟩
  · intro hnone kind
    by_cases hkind : kind = .symbol
    · rw [hkind, hnone]
    · obtain ⟨rule, hrule⟩ := Kind.exists_rule hkind
      rw [List.eq_nil_iff_forall_not_mem]
      intro m hm
      obtain ⟨t, htoken, _⟩ := Layout.exists_token_among hall ht hrule hm
      rw [hnone] at htoken
      cases htoken

end

open SomeNames

theorem searchText_nested_quoted_call :
    let text := Text.of "(funcall 'f (f f))"
    ∃ found : Kind → List Match,
      (∀ kind, searchText (.named "f") kind text = .ok (found kind)) ∧
      (found .function).map Match.span = [.ofNat 0 18] ∧
      (found .macroCall).map Match.span = [.ofNat 12 17] ∧
      (found .variableUse).map Match.span = [.ofNat 10 11, .ofNat 15 16] ∧
      (found .symbol).map Match.span = [.ofNat 10 11, .ofNat 13 14, .ofNat 15 16] ∧
      (∀ m ∈ found .macroCall, ∃! n, n ∈ found .function ∧ m.span.Within n.span) ∧
      (∀ m ∈ found .variableUse, ∃ t ∈ found .symbol, t.span = m.span) := by
  intro text
  have hread : readAll text = .ok [⟨.list [.symbol (.named "funcall"),
      .quoted (.symbol (.named "f")), .list [.symbol (.named "f"), .symbol (.named "f")]],
      .ofNat 0 18, [⟨.named "funcall", 1, 7⟩, ⟨.named "f", 10, 1⟩, ⟨.named "f", 13, 1⟩,
        ⟨.named "f", 15, 1⟩]⟩] := by decide +kernel
  have hmarks : ∀ m : Shorthand, m.head ≠ .named "f" := by
    intro m
    cases m <;> decide +kernel
  obtain ⟨found, hsearch, hcalls, htokens⟩ := searchText_nested hread (.named "f")
  obtain ⟨hvariables, _, _⟩ := htokens hmarks
  have hspans : ∀ kind spans, (searchText (.named "f") kind text).map (List.map Match.span) =
      .ok spans → (found kind).map Match.span = spans := by
    intro kind spans h
    rw [hsearch kind] at h
    exact Except.ok.inj h
  exact ⟨found, hsearch, hspans _ _ (by decide +kernel), hspans _ _ (by decide +kernel),
    hspans _ _ (by decide +kernel), hspans _ _ (by decide +kernel), hcalls _ (by simp), hvariables⟩

end LispXref
