-- Carrying layouts from one text over to another. Main statement: a layout whose
-- lexemes and gaps all stand in another text, each as a whole, has a layout there too,
-- with its offsets moved.
import LispXref.Proofs.Cut

namespace LispXref.Reading

/-! ## Moving layouts -/

/-- Where the offsets of one text go in another: those where something starts, and those
where something stops. -/
structure Moves where
  start : Nat → Nat
  stop : Nat → Nat

/-- Offsets that all move on by the same distance. -/
def Moves.forward (d : Nat) : Moves := ⟨(· + d), (· + d)⟩

/-- A symbol token at its new offset. -/
def Occurrence.move (m : Moves) (o : Occurrence) : Occurrence := { o with offset := m.start o.offset }

/-- A form with its symbol tokens at their new offsets. -/
def Piece.move (m : Moves) (p : Piece) : Piece := ⟨p.form, p.occurrences.map (.move m)⟩

/-- Contents of a bracket with their symbol tokens at new offsets. -/
def Contents.move (m : Moves) (c : Contents) : Contents :=
  ⟨c.items, c.tail, c.occurrences.map (.move m)⟩

/-- A layout at its new offsets. -/
def Layout.move (m : Moves) : Layout → Layout
  | node p s e parts => node (p.move m) (m.start s) (m.stop e) (parts.map (move m))

namespace Layout

variable (m : Moves) (l : Layout)

theorem move_node (p : Piece) (s e : Nat) (parts : List Layout) :
    (node p s e parts).move m = node (p.move m) (m.start s) (m.stop e) (parts.map (move m)) := by
  rw [move]

@[simp] theorem piece_move : (l.move m).piece = l.piece.move m := by
  cases l
  rw [move_node]
  rfl

@[simp] theorem form_move : (l.move m).form = l.form := by
  rw [form, piece_move]
  rfl

@[simp] theorem occurrences_move : (l.move m).occurrences = l.occurrences.map (.move m) := by
  rw [occurrences, piece_move]
  rfl

@[simp] theorem start_move : (l.move m).start = m.start l.start := by
  cases l
  rw [move_node]
  rfl

@[simp] theorem stop_move : (l.move m).stop = m.stop l.stop := by
  cases l
  rw [move_node]
  rfl

@[simp] theorem parts_move : (l.move m).parts = l.parts.map (move m) := by
  cases l
  rw [move_node]
  rfl

end Layout

theorem Contents.ofLayouts_move (m : Moves) (items : List Layout) (tail : Option Layout) :
    Contents.ofLayouts (items.map (.move m)) (tail.map (.move m)) =
      (Contents.ofLayouts items tail).move m := by
  cases tail <;>
    simp [ofLayouts, move, List.flatMap_map, List.map_flatMap, Function.comp_def]

theorem Bracket.parts_move (b : Bracket) (m : Moves) (items : List Layout) (tail : Option Layout) :
    b.parts (items.map (.move m)) (tail.map (.move m)) = (b.parts items tail).map (.move m) := by
  cases b with
  | propertied => rfl
  | list | vector kind => cases tail <;> simp [parts]

/-! ## Layouts that are kept together -/

section Clear

variable {known : CharacterNames}
variable {K : Nat → Nat → Prop}

mutual

/-- The lexemes and gaps of a layout lie in regions that are kept: the whole layout is
kept, or its parts are clear and so are the regions around them. -/
inductive Layout.Clear (K : Nat → Nat → Prop) : Layout → Prop
  | whole {l : Layout} : K l.start l.stop → Layout.Clear K l
  | parts {l : Layout} : ClearRow K l.start l.parts l.stop → Layout.Clear K l

/-- Layouts in a row are clear, and the regions before, between and behind them are
kept. -/
inductive ClearRow (K : Nat → Nat → Prop) : Nat → List Layout → Nat → Prop
  | nil {q e : Nat} : K q e → ClearRow K q [] e
  | cons {q e : Nat} {l : Layout} {ls : List Layout} : K q l.start → Layout.Clear K l →
      ClearRow K l.stop ls e → ClearRow K q (l :: ls) e

end

/-- What lies in a kept region is kept. -/
def Narrows (K : Nat → Nat → Prop) : Prop := ∀ {a b s e : Nat}, K a b → a ≤ s → e ≤ b → K s e

/-- Layouts in a kept region are clear. -/
theorem Row.clear (hK : Narrows K) {q e q' e' : Nat} {ls : List Layout} (h : Row q ls e)
    (hl : ∀ l ∈ ls, l.start ≤ l.stop) (hk : K q' e') (hq : q' ≤ q) (he : e ≤ e') :
    ClearRow K q' ls e' := by
  induction ls generalizing q q' with
  | nil => exact .nil hk
  | cons l ls ih =>
    obtain ⟨hqs, hrow⟩ := h
    have hle : l.start ≤ l.stop := hl l List.mem_cons_self
    have hls : ∀ l' ∈ ls, l'.start ≤ l'.stop := fun l' hl' => hl l' (List.mem_cons_of_mem _ hl')
    have hstop : l.stop ≤ e' := Nat.le_trans (hrow.le hls) he
    have hstart : q' ≤ l.start := Nat.le_trans hq hqs
    refine .cons ?_ (.whole ?_) ?_
    · exact hK hk (Nat.le_refl _) (Nat.le_trans hle hstop)
    · exact hK hk hstart hstop
    · exact ih hrow hls (hK hk (Nat.le_trans hstart hle) (Nat.le_refl _)) (Nat.le_refl _)

/-- A layout without parts is clear only as a whole. -/
theorem Layout.Clear.kept {l : Layout} (h : l.Clear K) (hp : l.parts = []) : K l.start l.stop := by
  cases h with
  | whole hk => exact hk
  | parts hrow =>
    rw [hp] at hrow
    cases hrow with
    | nil hk => exact hk

variable {text : Text} {b : Bracket} {s q e : Nat} {items : List Layout} {tail : Option Layout}

/-- In a clear compound, everything between the brackets is clear, also text properties. -/
theorem Inside.clearRow (hK : Narrows K) (h : Inside text b q items tail e)
    (hall : ∀ l ∈ items ++ tail.toList, Laid text l) (hsq : s ≤ q) {p : Piece}
    (hc : (Layout.node p s e (b.parts items tail)).Clear K) :
    ClearRow K s (items ++ tail.toList) e := by
  have hwhole : K s e → ClearRow K s (items ++ tail.toList) e := by
    intro hk
    obtain ⟨r, hrow, hlt, _⟩ := h.row
    exact hrow.clear hK (fun l hl => (hall l hl).start_le_stop) hk hsq (Nat.le_of_lt hlt)
  cases hc with
  | whole hk => exact hwhole hk
  | parts hrow =>
    cases b with
    | propertied =>
      cases hrow with
      | nil hk => exact hwhole hk
    | list | vector kind => exact hrow

/-- The opening bracket of clear contents is kept. -/
theorem Inside.kept_opening (hK : Narrows K) (h : Inside text b q items tail e)
    (hc : ClearRow K s (items ++ tail.toList) e) : K s q := by
  cases h with
  | close hg hx =>
    cases hc with
    | nil hk => exact hK hk (Nat.le_refl _) (Nat.le_trans hg.le (Nat.le_of_lt hx.bounds.1))
  | tail _ hg hd hg' =>
    cases hc with
    | cons hk =>
      have hle := Nat.le_trans hg.le (Nat.le_of_lt hd.bounds.1)
      exact hK hk (Nat.le_refl _) (Nat.le_trans hle hg'.le)
  | item hg =>
    cases hc with
    | cons hk => exact hK hk (Nat.le_refl _) hg.le

/-- A clear layout begins with a lexeme that is kept. -/
theorem Laid.exists_first_kept (hK : Narrows K) {l : Layout} (h : Laid text l) (hc : l.Clear K) :
    ∃ x n, LexemeAt text l.start x n ∧ K l.start n := by
  cases h with
  | atom hx => exact ⟨_, _, hx, hc.kept rfl⟩
  | @shorthand s q m inner hx hg hi =>
    refine ⟨_, _, hx, ?_⟩
    cases hc with
    | whole hk => exact hK hk (Nat.le_refl _) (Nat.le_trans hg.le hi.start_le_stop)
    | parts hrow =>
      cases hrow with
      | cons _ hmark _ =>
        obtain rfl : q = s + m.mark.length := hx.spelled.2.1
        exact hmark.kept rfl
  | bracket hx hin _ hall =>
    have hrow := hin.clearRow hK hall (Nat.le_of_lt hx.bounds.1) hc
    exact ⟨_, _, hx, hin.kept_opening hK hrow⟩

end Clear

/-! ## Carrying -/

/-- The lexemes and gaps in kept regions of a text stand in another text, at moved
offsets. A lexeme keeps its width. -/
structure Carry [CharacterNames] (text text' : Text) (m : Moves) (K : Nat → Nat → Prop) : Prop where
  narrows : Narrows K
  lexeme : ∀ {s n : Nat} {x : Lexeme}, K s n → LexemeAt text s x n →
    LexemeAt text' (m.start s) x (m.stop n)
  gap : ∀ {q s n : Nat} {x : Lexeme}, K q s → K s n → Gap text q s → LexemeAt text s x n →
    Gap text' (m.stop q) (m.start s)
  width : ∀ {s n : Nat}, K s n → s < n → m.stop n = m.start s + (n - s)

section Carry

variable {known : CharacterNames}
variable {text text' : Text} {m : Moves} {K : Nat → Nat → Prop}

theorem Carry.gap_of_laid (c : Carry text text' m K) {q : Nat} {l : Layout} (hk : K q l.start)
    (hg : Gap text q l.start) (hl : Laid text l) (hc : l.Clear K) :
    Gap text' (m.stop q) (m.start l.start) := by
  obtain ⟨x, n, hx, hn⟩ := hl.exists_first_kept c.narrows hc
  exact c.gap hk hn hg hx

theorem Carry.move_ofAtom (c : Carry text text' m K) {s e : Nat} (hk : K s e) (hlt : s < e)
    (f : Form) : (Piece.ofAtom s e f).move m = .ofAtom (m.start s) (m.stop e) f := by
  have hw : m.stop e - m.start s = e - s := by
    rw [c.width hk hlt]
    omega
  cases f with
  | symbol x => simp [Piece.ofAtom, Piece.move, Occurrence.move, hw]
  | _ => rfl

theorem Carry.move_mark (c : Carry text text' m K) {s : Nat} (sh : Shorthand)
    (hk : K s (s + sh.mark.length)) : (Layout.mark sh s).move m = .mark sh (m.start s) := by
  have hpos : 0 < sh.mark.length := by cases sh <;> decide
  have hw : m.stop (s + sh.mark.length) = m.start s + sh.mark.length := by
    rw [c.width hk (by omega)]
    omega
  rw [Layout.mark, Layout.move_node, hw]
  rfl

/-- Contents are carried over, item by item. -/
theorem Inside.carry (c : Carry text text' m K) {b : Bracket} {q q' e : Nat} {items : List Layout}
    {tail : Option Layout} (h : Inside text b q items tail e)
    (hall : ∀ l ∈ items ++ tail.toList, Laid text l)
    (hc : ClearRow K q' (items ++ tail.toList) e) (hq : q' ≤ q) :
    Inside text' b (m.stop q) (items.map (.move m)) (tail.map (.move m)) (m.stop e) := by
  induction h generalizing q' with
  | close hg hx =>
    cases hc with
    | nil hk =>
      have hlt := hx.bounds.1
      have hkx := c.narrows hk (Nat.le_trans hq hg.le) (Nat.le_refl _)
      have hkg := c.narrows hk hq (Nat.le_of_lt hlt)
      exact .close (c.gap hkg hkx hg hx) (c.lexeme hkx hx)
  | @tail q r d t e l hb hg hd hg' hstop hx =>
    cases hc with
    | cons hk hcl hrow =>
      cases hrow with
      | nil hke =>
        have hl := hall l (by simp)
        have hrd := Nat.le_of_lt hd.bounds.1
        have hdl := hg'.le
        have hkd := c.narrows hk (Nat.le_trans hq hg.le) hdl
        have hkg := c.narrows hk hq (Nat.le_trans hrd hdl)
        have hkl := c.narrows hk (Nat.le_trans hq (Nat.le_trans hg.le hrd)) (Nat.le_refl _)
        have hkx := c.narrows hke hstop.le (Nat.le_refl _)
        have hkt := c.narrows hke (Nat.le_refl _) (Nat.le_of_lt hx.bounds.1)
        refine .tail hb (c.gap hkg hkd hg hd) (c.lexeme hkd hd) ?_ ?_ (c.lexeme hkx hx)
        · rw [Layout.start_move]
          exact c.gap_of_laid hkl hg' hl hcl
        · rw [Layout.stop_move]
          exact c.gap hkt hkx hstop hx
  | @item q e l ls tail hg hin ih =>
    cases hc with
    | cons hk hcl hrow =>
      have hl := hall l (by simp)
      refine .item ?_ ?_
      · rw [Layout.start_move]
        exact c.gap_of_laid (c.narrows hk hq (Nat.le_refl _)) hg hl hcl
      · rw [Layout.stop_move]
        exact ih (fun l' hl' => hall l' (by simp [hl'])) hrow (Nat.le_refl _)

theorem ClearRow.clear_of_mem {q e : Nat} {ls : List Layout} (h : ClearRow K q ls e) {l : Layout}
    (hl : l ∈ ls) : l.Clear K := by
  induction ls generalizing q with
  | nil => cases hl
  | cons l' ls ih =>
    cases h with
    | cons _ hc hrow =>
      rcases List.mem_cons.1 hl with rfl | hl
      · exact hc
      · exact ih hrow hl

/-- What a bracket makes of its contents does not depend on where they stand. -/
theorem Bracket.build_move {b : Bracket} {s : Nat} {items : List Layout} {tail : Option Layout}
    {p : Piece} {next after : Cursor}
    (h : b.build s (.ofLayouts items tail) next = .done p after) (m : Moves) (s' : Nat)
    (next' : Cursor) :
    b.build s' (.ofLayouts (items.map (.move m)) (tail.map (.move m))) next' =
      .done (p.move m) next' := by
  obtain ⟨hf, ho, _⟩ := Bracket.build_eq_done.1 h
  rw [Contents.ofLayouts_move]
  exact Bracket.build_eq_done.2 ⟨hf, congrArg (List.map (Occurrence.move m)) ho, rfl⟩

/-- A clear layout is carried over as a whole. -/
theorem Laid.carry (c : Carry text text' m K) {l : Layout} (h : Laid text l) (hc : l.Clear K) :
    Laid text' (l.move m) := by
  induction h with
  | @atom s e f hx =>
    have hk : K s e := hc.kept rfl
    rw [Layout.move_node, c.move_ofAtom hk hx.bounds.1]
    exact .atom (c.lexeme hk hx)
  | @shorthand s q sh inner hx hg hi ih =>
    obtain rfl : q = s + sh.mark.length := hx.spelled.2.1
    have hkept : K s (s + sh.mark.length) ∧ K (s + sh.mark.length) inner.start ∧ inner.Clear K := by
      cases hc with
      | whole hk =>
        have hle := hi.start_le_stop
        have hqs := hg.le
        have hsq := Nat.le_of_lt hx.bounds.1
        refine ⟨?_, ?_, .whole ?_⟩
        · exact c.narrows hk (Nat.le_refl _) (Nat.le_trans hqs hle)
        · exact c.narrows hk hsq hle
        · exact c.narrows hk (Nat.le_trans hsq hqs) (Nat.le_refl _)
      | parts hrow =>
        cases hrow with
        | cons _ hmark hrow =>
          cases hrow with
          | cons hki hci _ => exact ⟨hmark.kept rfl, hki, hci⟩
    obtain ⟨hkx, hkg, hci⟩ := hkept
    have hgap := c.gap_of_laid hkg hg hi hci
    rw [← Layout.start_move] at hgap
    have hlaid := Laid.shorthand (c.lexeme hkx hx) hgap (ih hci)
    rw [Layout.stop_move, Layout.piece_move, ← c.move_mark sh hkx] at hlaid
    rw [Layout.move_node]
    exact hlaid
  | @bracket s q e b items tail p hx hin hfirst hall hb ih =>
    have hrow := hin.clearRow c.narrows hall (Nat.le_of_lt hx.bounds.1) hc
    have hkx := hin.kept_opening c.narrows hrow
    have hin' := hin.carry c hall hrow (Nat.le_of_lt hx.bounds.1)
    rw [Layout.move_node, ← Bracket.parts_move]
    refine .bracket (c.lexeme hkx hx) hin' ?_ ?_ (Bracket.build_move hb m _ _)
    · intro hnil
      rw [hfirst (List.map_eq_nil_iff.1 hnil)]
      rfl
    · intro l hl
      have hmem : l ∈ (items ++ tail.toList).map (.move m) := by
        cases tail <;> simpa using hl
      obtain ⟨l', hl', rfl⟩ := List.mem_map.1 hmem
      exact ih l' hl' (hrow.clear_of_mem hl')

end Carry

end LispXref.Reading
