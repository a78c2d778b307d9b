-- The matches of a text: which layouts they come from, and how they stand in the
-- text. Main statement: they are in the order of the text and do not overlap.
import LispXref.Proofs.Outermost
import LispXref.Reading.SomeNames
import LispXref.Search

namespace LispXref

open Reading

/-! ## Matches in order -/

/-- Matches that are not empty and stand one after the other between two offsets. -/
def InOrder (q : Int) : List Match → Int → Prop
  | [], e => q ≤ e
  | m :: ms, e => q ≤ m.span.start ∧ m.span.start < m.span.stop ∧ InOrder m.span.stop ms e

namespace InOrder

variable {a b c : Int} {ms ns : List Match}

theorem le (h : InOrder a ms b) : a ≤ b := by
  induction ms generalizing a with
  | nil => exact h
  | cons m ms ih =>
    obtain ⟨hm, hlt, hms⟩ := h
    have := ih hms
    omega

theorem mono {a' b' : Int} (h : InOrder a ms b) (ha : a' ≤ a) (hb : b ≤ b') : InOrder a' ms b' := by
  induction ms generalizing a a' with
  | nil => exact Int.le_trans ha (Int.le_trans h hb)
  | cons m ms ih => exact ⟨Int.le_trans ha h.1, h.2.1, ih h.2.2 (Int.le_refl _)⟩

theorem append (h : InOrder a ms b) (h' : InOrder b ns c) : InOrder a (ms ++ ns) c := by
  induction ms generalizing a with
  | nil => exact h'.mono h (Int.le_refl _)
  | cons m ms ih => exact ⟨h.1, h.2.1, ih h.2.2⟩

theorem filter (h : InOrder a ms b) (p : Match → Bool) : InOrder a (ms.filter p) b := by
  induction ms generalizing a with
  | nil => exact h
  | cons m ms ih =>
    rw [List.filter_cons]
    split
    · exact ⟨h.1, h.2.1, ih h.2.2⟩
    · have hle : a ≤ m.span.stop := Int.le_trans h.1 (Int.le_of_lt h.2.1)
      exact (ih h.2.2).mono hle (Int.le_refl _)

/-- Every match lies between the ends. -/
theorem mem (h : InOrder a ms b) {m : Match} (hm : m ∈ ms) :
    a ≤ m.span.start ∧ m.span.start < m.span.stop ∧ m.span.stop ≤ b := by
  induction ms generalizing a with
  | nil => cases hm
  | cons n ms ih =>
    obtain ⟨hn, hlt, hms⟩ := h
    rcases List.mem_cons.1 hm with rfl | hm
    · exact ⟨hn, hlt, hms.le⟩
    · have := ih hms hm
      omega

/-- An earlier match ends before a later one begins. -/
theorem pairwise (h : InOrder a ms b) : ms.Pairwise fun m n => m.span.stop ≤ n.span.start := by
  induction ms generalizing a with
  | nil => exact .nil
  | cons m ms ih => exact .cons (fun n hn => (h.2.2.mem hn).1) (ih h.2.2)

end InOrder

namespace Reading

/-- Matches of layouts in a row are in order if those of each layout are. -/
theorem Row.inOrder {q e : Nat} {ls : List Layout} (h : Row q ls e) {found : Layout → List Match}
    (hl : ∀ l ∈ ls, InOrder l.start (found l) l.stop) : InOrder q (ls.flatMap found) e := by
  induction ls generalizing q with
  | nil => exact Int.ofNat_le.2 h
  | cons l ls ih =>
    have hhead := (hl l List.mem_cons_self).mono (Int.ofNat_le.2 h.1) (Int.le_refl _)
    exact hhead.append (ih h.2 fun l' hl' => hl l' (List.mem_cons_of_mem _ hl'))

theorem Row.filter {q e : Nat} {ls : List Layout} (h : Row q ls e) (hl : ∀ l ∈ ls, l.start ≤ l.stop)
    (p : Layout → Bool) : Row q (ls.filter p) e := by
  induction ls generalizing q with
  | nil => exact h
  | cons l ls ih =>
    have hrest := ih h.2 fun l' hl' => hl l' (List.mem_cons_of_mem _ hl')
    rw [List.filter_cons]
    split
    · exact ⟨h.1, hrest⟩
    · exact hrest.mono (Nat.le_trans h.1 (hl l List.mem_cons_self)) (Nat.le_refl _)

/-! ## Matches of a rule -/

variable {known : CharacterNames}

/-- The parts of a layout stand in a row inside it. -/
theorem Laid.row_parts {text : Text} {l : Layout} (h : Laid text l) :
    Row l.start l.parts l.stop := by
  have hle := h.start_le_stop
  cases h with
  | atom hx => exact hle
  | @shorthand s q m inner hx hg hi =>
    obtain rfl : q = s + m.mark.length := hx.spelled.2.1
    exact ⟨Nat.le_refl s, hg.le, Nat.le_refl inner.stop⟩
  | @bracket s q e b items tail p hx hin hfirst hall hb =>
    obtain ⟨r, hr, hlt, _⟩ := hin.row
    have hrow := hr.mono (Nat.le_of_lt hx.bounds.1) (Nat.le_of_lt hlt)
    cases b with
    | propertied => exact hle
    | _ => exact hrow

theorem Layout.inOrder_foundAmong {accepts : Form → Path → Bool} {ls : List Layout} {q e : Nat}
    (h : ∀ l ∈ ls, ∀ path, InOrder l.start (l.found accepts path) l.stop) (hr : Row q ls e)
    (operator : Option Symbol) (index : Nat) (path : Path) :
    InOrder q (foundAmong accepts path operator index ls) e := by
  induction ls generalizing q index with
  | nil => exact Int.ofNat_le.2 hr
  | cons l ls ih =>
    rw [foundAmong]
    have hl := h l List.mem_cons_self (⟨operator, index⟩ :: path)
    have hhead := hl.mono (Int.ofNat_le.2 hr.1) (Int.le_refl _)
    exact hhead.append (ih (fun l' hl' => h l' (List.mem_cons_of_mem _ hl')) hr.2 (index + 1))

theorem Layout.inOrder_found {accepts : Form → Path → Bool} {l : Layout} (hlt : l.start < l.stop)
    (h : l.form.descends = true → ∀ path operator index,
      InOrder l.start (foundAmong accepts path operator index l.parts) l.stop) (path : Path) :
    InOrder l.start (l.found accepts path) l.stop := by
  have hlt' : (l.start : Int) < l.stop := Int.ofNat_lt.2 hlt
  rw [found_eq]
  split
  · exact ⟨Int.le_refl _, hlt', Int.le_refl _⟩
  · split
    · rename_i hd
      exact h hd path _ _
    · exact Int.le_of_lt hlt'

/-- What is found in a form stands in order inside it: below a match, nothing more is
found. -/
theorem Laid.inOrder_found {text : Text} {l : Layout} (h : Laid text l)
    (accepts : Form → Path → Bool) : ∀ path, InOrder l.start (l.found accepts path) l.stop := by
  refine h.induction_on_parts
    (P := fun l => ∀ path, InOrder l.start (l.found accepts path) l.stop) ?_ ?_
  · intro m s q hx
    obtain rfl : q = s + m.mark.length := hx.spelled.2.1
    exact Layout.inOrder_found hx.bounds.1 nofun
  · intro l hl hparts
    refine Layout.inOrder_found hl.bounds.1 fun _ path operator index => ?_
    exact Layout.inOrder_foundAmong hparts hl.row_parts operator index path

/-! ## Tokens -/

/-- The match of a symbol token. -/
def Occurrence.toMatch (o : Occurrence) : Match :=
  ⟨.ofNat o.offset (o.offset + o.length), .symbol o.symbol⟩

/-- The matches of the tokens of a symbol. -/
def Layout.tokens (target : Symbol) (l : Layout) : List Match :=
  (l.occurrences.filter fun o => o.symbol = target).map Occurrence.toMatch

/-- The symbol tokens of a form stand in order inside it. -/
theorem Laid.inOrder_occurrences {text : Text} {l : Layout} (h : Laid text l) :
    InOrder l.start (l.occurrences.map Occurrence.toMatch) l.stop := by
  induction h with
  | @atom s e f hx =>
    have hlt := hx.bounds.1
    cases f with
    | symbol x =>
      refine ⟨Int.le_refl _, ?_, ?_⟩
      · show (s : Int) < ↑(s + (e - s))
        omega
      · show ((s + (e - s) : Nat) : Int) ≤ e
        omega
    | _ => exact Int.ofNat_le.2 (Nat.le_of_lt hlt)
  | @shorthand s q m inner hx hg hi ih =>
    have hle : s ≤ inner.start := Nat.le_trans (Nat.le_of_lt hx.bounds.1) hg.le
    exact ih.mono (Int.ofNat_le.2 hle) (Int.le_refl _)
  | @bracket s q e b items tail p hx hin hfirst hall hb ih =>
    obtain ⟨r, hr, hlt, _⟩ := hin.row
    have hrow := hr.mono (Nat.le_of_lt hx.bounds.1) (Nat.le_of_lt hlt)
    have horder := hrow.inOrder ih
    rw [← List.map_flatMap] at horder
    show InOrder s (p.occurrences.map Occurrence.toMatch) e
    rw [(Bracket.build_eq_done.1 hb).2.1]
    exact horder

theorem Laid.inOrder_tokens {text : Text} {l : Layout} (h : Laid text l) (target : Symbol) :
    InOrder l.start (l.tokens target) l.stop := by
  have hpred : (fun m : Match => decide (m.form = .symbol target)) ∘ Occurrence.toMatch =
      fun o => decide (o.symbol = target) := by
    funext o
    simp [Occurrence.toMatch]
  have hfilter := h.inOrder_occurrences.filter fun m => decide (m.form = .symbol target)
  rw [List.filter_map, hpred] at hfilter
  exact hfilter

/-- Token offsets count from the start of a top-level form and are found again in the
text. -/
theorem Laid.spansOf_positioned {text : Text} {l : Layout} (h : Laid text l) (target : Symbol) :
    (l.positioned.spansOf target).map (fun s => ⟨s, .symbol target⟩) = l.tokens target := by
  unfold Positioned.spansOf Layout.positioned Positioned.ofPiece Layout.tokens
  rw [List.filter_map, List.map_map, List.map_map]
  refine List.map_congr_left fun o ho => ?_
  obtain ⟨hmem, hsym⟩ := List.mem_filter.1 ho
  have hle : (l.start : Int) ≤ o.offset :=
    (h.inOrder_occurrences.mem (List.mem_map_of_mem hmem)).1
  have hsym' : o.symbol = target := of_decide_eq_true hsym
  simp only [Function.comp, Occurrence.toMatch, Span.shift, Span.ofNat, hsym', Match.mk.injEq,
    Span.mk.injEq, and_true]
  omega

/-! ## The matches of a text -/

/-- The matches of a kind in a top-level form. -/
def Layout.matchesOf (target : Symbol) (kind : Kind) (l : Layout) : List Match :=
  match kind.rule with
  | .ok rule => l.found (rule target) []
  | .error _ => l.tokens target

theorem Laid.inOrder_matchesOf {text : Text} {l : Layout} (h : Laid text l) (target : Symbol)
    (kind : Kind) : InOrder l.start (l.matchesOf target kind) l.stop := by
  unfold Layout.matchesOf
  split
  · exact h.inOrder_found _ []
  · exact h.inOrder_tokens target

theorem walkAll_eq {text : Text} {target : Symbol} {rule : Rule}
    (hr : rule.RejectsOtherAtoms target) {ls : List Layout} (h : ∀ l ∈ ls, Laid text l) :
    walkAll text target rule (ls.map Layout.positioned) =
      .ok (ls.flatMap fun l => l.found (rule target) []) := by
  induction ls with
  | nil => rfl
  | cons l ls ih =>
    have hwalk : walk text target rule l.positioned.form l.positioned.span [] =
        .ok (l.found (rule target) []) :=
      walk_eq_found hr (h l List.mem_cons_self) []
    rw [List.map_cons, walkAll, hwalk, ih fun l' hl' => h l' (List.mem_cons_of_mem _ hl')]
    rfl

theorem matchesIn_eq {text : Text} (target : Symbol) (kind : Kind) {ls : List Layout}
    (h : ∀ l ∈ ls, Laid text l) :
    matchesIn text target kind (ls.map Layout.positioned) =
      .ok (ls.flatMap (Layout.matchesOf target kind)) := by
  unfold matchesIn Layout.matchesOf
  cases hk : kind.rule with
  | ok rule => exact walkAll_eq (Kind.rejectsOtherAtoms hk target) h
  | error e =>
    have htokens := List.map_congr_left fun l hl => (h l hl).spansOf_positioned target
    simp only [tokenMatches, List.flatMap_map]
    rw [List.flatMap_def, List.flatMap_def, htokens]

end Reading

section

variable {known : CharacterNames}

/-- The matches of a text are those of its top-level forms that mention the symbol. -/
theorem exists_row_of_searchText {text : Text} {target : Symbol} {kind : Kind} {ms : List Match}
    (h : searchText target kind text = .ok ms) :
    ∃ ls, (∀ l ∈ ls, Laid text l) ∧ Row 0 ls text.length ∧
      ms = ls.flatMap (Layout.matchesOf target kind) := by
  unfold searchText at h
  split at h
  · rename_i forms hr
    obtain ⟨ls, hall, hrow, rfl⟩ := exists_row_of_readAll hr
    rw [List.filter_map] at h
    have hall' : ∀ l ∈ ls.filter ((·.mentions target) ∘ Layout.positioned), Laid text l :=
      fun l hl => hall l (List.mem_filter.1 hl).1
    rw [matchesIn_eq target kind hall'] at h
    cases h
    exact ⟨_, hall', hrow.filter (fun l hl => (hall l hl).start_le_stop) _, rfl⟩
  · cases h

/-- Every match lies in the text and is not empty, and the matches of a text stand in
its order without overlapping. -/
theorem searchText_ordered {text : Text} {target : Symbol} {kind : Kind} {ms : List Match}
    (h : searchText target kind text = .ok ms) :
    (∀ m ∈ ms, 0 ≤ m.span.start ∧ m.span.start < m.span.stop ∧ m.span.stop ≤ text.length) ∧
      ms.Pairwise fun m n => m.span.stop ≤ n.span.start := by
  obtain ⟨ls, hall, hrow, rfl⟩ := exists_row_of_searchText h
  have horder := hrow.inOrder fun l hl => (hall l hl).inOrder_matchesOf target kind
  exact ⟨fun m hm => horder.mem hm, horder.pairwise⟩

end

open SomeNames

theorem searchText_ordered_two_calls :
    ∃ ms, searchText (.named "f") .function (Text.of "(f #'f) (f)") = .ok ms ∧ ms.length = 2 ∧
      (∀ m ∈ ms, 0 ≤ m.span.start ∧ m.span.start < m.span.stop ∧ m.span.stop ≤ 11) ∧
      ms.Pairwise fun m n => m.span.stop ≤ n.span.start := by
  have hsearch : searchText (.named "f") .function (Text.of "(f #'f) (f)") =
      .ok [⟨.ofNat 0 7, .list [.symbol (.named "f"), Shorthand.function.apply (.symbol (.named "f"))]⟩,
        ⟨.ofNat 8 11, .list [.symbol (.named "f")]⟩] := by decide +kernel
  exact ⟨_, hsearch, rfl, searchText_ordered hsearch⟩

end LispXref
