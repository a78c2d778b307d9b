-- How a search of one file fails. A walk scans the text again, at every depth, but only
-- where reading has passed already. Main statement: searching a file fails exactly when
-- reading it does, and with the same fault, whatever the target and the kind are.
import LispXref.Proofs.Mentions
import LispXref.Reading.SomeNames

namespace LispXref

open Reading

/-! ## Walking -/

section Walk

variable {known : CharacterNames}
variable {text : Text} {target : Symbol} {accepts : Form → Path → Bool}

/-- Walking the form of a layout does not fail. -/
def Reading.Layout.Walkable [CharacterNames] (text : Text) (target : Symbol)
    (accepts : Form → Path → Bool) (l : Layout) : Prop :=
  ∀ path, ∃ vs, visits text target accepts l.form l.span path = .ok vs

namespace Reading

theorem Layout.walkable_of_not_descends {l : Layout} (hd : l.form.descends = false) :
    l.Walkable text target accepts := by
  intro path
  by_cases h : accepts l.form path = true
  · exact ⟨_, visits_of_accepted h l.span⟩
  · exact ⟨_, visits_of_not_descends (Bool.eq_false_iff.2 h) hd l.span⟩

theorem Layout.visitsItems_ok {ls : List Layout} (h : ∀ l ∈ ls, l.Walkable text target accepts)
    (operator : Option Symbol) (index : Nat) (path : Path) :
    ∃ vs, visitsItems text target accepts (ls.map form) (ls.map span) operator index path = .ok vs := by
  induction ls generalizing index with
  | nil => exact ⟨_, visitsItems_nil _ _ _ _ _ _ _⟩
  | cons l ls ih =>
    obtain ⟨ws, hws⟩ := ih (fun l' hl' => h l' (List.mem_cons_of_mem _ hl')) (index + 1)
    obtain ⟨vs, hvs⟩ := h l List.mem_cons_self (⟨operator, index⟩ :: path)
    rw [List.map_cons, List.map_cons, visitsItems]
    by_cases hm : l.form.mayMatter target = true
    · exact ⟨vs ++ ws, by simp only [hm, if_true, hvs, hws]; rfl⟩
    · exact ⟨ws, by simp only [hm, Bool.false_eq_true, if_false, hws]; rfl⟩

theorem Laid.walkable_of_parts {l : Layout} (hl : Laid text l)
    (h : ∀ l' ∈ l.parts, l'.Walkable text target accepts) : l.Walkable text target accepts := by
  cases hd : l.form.descends with
  | false => exact Layout.walkable_of_not_descends hd
  | true =>
    intro path
    by_cases hacc : accepts l.form path = true
    · exact ⟨_, visits_of_accepted hacc l.span⟩
    · have hrejected := Bool.eq_false_iff.2 hacc
      have hneeded := hl.neededSpans_eq target hd
      split at hneeded
      · obtain ⟨vs, hvs⟩ := Layout.visitsItems_ok h l.form.operator? 0 path
        rw [← hl.children_eq hd] at hvs
        exact ⟨_, visits_of_descends hrejected hd hneeded hvs⟩
      · exact ⟨_, visits_of_descends hrejected hd hneeded (visitsItems_nil _ _ _ _ _ _ _)⟩

/-- Whatever the rule is, walking a form that was read does not fail. -/
theorem Laid.walkable {l : Layout} (h : Laid text l) : l.Walkable text target accepts :=
  h.induction_on_parts (fun _ => Layout.walkable_of_not_descends rfl) Laid.walkable_of_parts

end Reading

end Walk

section

variable {known : CharacterNames}

theorem walk_of_readAll {text : Text} {forms : List Positioned} (h : readAll text = .ok forms)
    {p : Positioned} (hp : p ∈ forms) (target : Symbol) (rule : Rule) :
    ∃ ms, walk text target rule p.form p.span [] = .ok ms := by
  obtain ⟨ls, hall, _, rfl⟩ := exists_row_of_readAll h
  obtain ⟨l, hl, rfl⟩ := List.mem_map.1 hp
  have hwalkable : l.Walkable text target (rule target) := (hall l hl).walkable
  obtain ⟨vs, hvs⟩ := hwalkable []
  unfold walk
  exact ⟨references vs, congrArg _ hvs⟩

/-! ## Searching -/

theorem searchText_eq_error_iff {target : Symbol} {kind : Kind} {text : Text} {fault : Fault} :
    searchText target kind text = .error fault ↔ readAll text = .error fault := by
  cases hr : readAll text with
  | ok forms =>
    obtain ⟨ls, hall, _, rfl⟩ := exists_row_of_readAll hr
    rw [searchText_of_row hr hall]
    constructor <;> nofun
  | error e =>
    unfold searchText
    simp only [hr, Except.error.injEq]

theorem searchFile_abort_iff {target : Symbol} {kind : Kind} {source : SourceFile} {f : FileFault} :
    searchFile .abort target kind source = .aborted f ↔
      f.path = source.path ∧ searchText target kind source.text = .error f.fault := by
  obtain ⟨path, fault⟩ := f
  unfold searchFile
  cases searchText target kind source.text with
  | ok ms => simp
  | error e => cases e <;> simp [eq_comm]

/-- A search of a file fails exactly when reading the file does, with the same fault and
under the file's path; neither the target nor the kind matters. Once the file has been
read, the walk of each of its forms comes to an end, whatever the rule is. -/
theorem searchFile_fails_iff (source : SourceFile) :
    (∀ target kind fault, searchText target kind source.text = .error fault ↔
      readAll source.text = .error fault) ∧
    (∀ target kind f, searchFile .abort target kind source = .aborted f ↔
      f.path = source.path ∧ readAll source.text = .error f.fault) ∧
    ∀ forms p target rule, readAll source.text = .ok forms → p ∈ forms →
      ∃ ms, walk source.text target rule p.form p.span [] = .ok ms := by
  refine ⟨fun target kind fault => searchText_eq_error_iff, fun target kind f => ?_, ?_⟩
  · rw [searchFile_abort_iff, searchText_eq_error_iff]
  · intro forms p target rule h hp
    exact walk_of_readAll h hp target rule

end

open SomeNames

theorem searchFile_fails_iff_two_texts :
    (searchFile .abort (.named "g") .function ⟨Text.of "a.el", Text.of "(f . a b)"⟩ =
      .aborted ⟨Text.of "a.el", .malformed 7 .manyAfterDot⟩) ∧
    ∃ forms, readAll (Text.of "(f '(g))") = .ok forms ∧ ∀ p ∈ forms,
      ∃ ms, walk (Text.of "(f '(g))") (.named "g") isCall p.form p.span [] = .ok ms := by
  have hfails : readAll (Text.of "(f . a b)") = .error (.malformed 7 .manyAfterDot) := by
    decide +kernel
  have hread : readAll (Text.of "(f '(g))") =
      .ok [⟨.list [.symbol (.named "f"), .quoted (.list [.symbol (.named "g")])], .ofNat 0 8,
        [⟨.named "f", 1, 1⟩, ⟨.named "g", 5, 1⟩]⟩] := by decide +kernel
  obtain ⟨_, haborts, _⟩ := searchFile_fails_iff ⟨Text.of "a.el", Text.of "(f . a b)"⟩
  obtain ⟨_, _, hwalks⟩ := searchFile_fails_iff ⟨Text.of "b.el", Text.of "(f '(g))"⟩
  exact ⟨(haborts _ _ _).2 ⟨rfl, hfails⟩, _, hread, fun p hp => hwalks _ p _ _ hread hp⟩

end LispXref
