-- Where forms stand in a text. A layout is a form with its region and the layouts
-- of its parts. `Laid` is the grammar of layouts: lexemes, with nothing but blanks
-- and comments between them. Main statement: whatever is read from a text has a
-- layout in it.
import LispXref.Proofs.Seam.Blank
import LispXref.Proofs.Spelling
import LispXref.Reading.TopLevel

namespace LispXref

/-- The forms that a compound is written with: its items, and the form after the dot
last. -/
def Form.elements : Form → List Form
  | .list items | .vector _ items => items
  | .dotted items tail => items ++ [tail]
  | _ => []

theorem Form.elements_of_not_isCompound {f : Form} (h : f.isCompound = false) :
    f.elements = [] := by
  cases f <;> first | rfl | cases h

namespace Reading

/-! ## Places of one text -/

/-- Reading on from a place of a text gets to a place of that text. -/
theorem Cursor.Reaches.eq_ofText {text : Text} {q : Nat} {next : Cursor}
    (h : (Cursor.ofText text q).Reaches next) : next = Cursor.ofText text next.pos := by
  obtain ⟨taken, ht, hp⟩ := h
  have hr : next.rest = text.drop next.pos := by
    rw [hp]
    show next.rest = text.drop (q + taken.length)
    rw [← List.drop_drop, show text.drop q = taken ++ next.rest from ht, List.drop_left]
  cases next
  simp only [Cursor.ofText, Cursor.mk.injEq, true_and]
  exact hr

/-- Only blanks and comments stand between two offsets, and none of them follows. -/
def Gap (text : Text) (q s : Nat) : Prop :=
  skipBlanks (.ofText text q) = .done () (.ofText text s)

/-- A lexeme stands between two offsets. -/
def LexemeAt [CharacterNames] (text : Text) (s : Nat) (x : Lexeme) (n : Nat) : Prop :=
  lex (.ofText text s) = .done (some ⟨s, x⟩) (.ofText text n)

theorem Gap.le {text : Text} {q s : Nat} (h : Gap text q s) : q ≤ s := by
  obtain ⟨taken, _, hp⟩ := skipBlanks_from _ _ _ h
  simp only [Cursor.ofText] at hp
  omega

variable {known : CharacterNames}

theorem LexemeAt.bounds {text : Text} {s n : Nat} {x : Lexeme} (h : LexemeAt text s x n) :
    s < n ∧ n ≤ text.length := (lex_advances h).bounds

theorem skipBlanks_end {cur : Cursor} (h : cur.rest = []) : skipBlanks cur = .done () cur := by
  rw [skipBlanks.eq_def]
  split
  · rfl
  · rename_i hr
    rw [h] at hr
    cases hr

/-- Where skipping stopped, it does not go on. -/
theorem skipBlanks_again {cur next : Cursor} (h : skipBlanks cur = .done () next) :
    skipBlanks next = .done () next := by
  by_cases hn : next.rest = []
  · exact skipBlanks_end hn
  · obtain ⟨taken, ht, hp, hl⟩ := skips_of_skipBlanks h hn
    have hs : skipBlanks cur = skipBlanks next := by
      have := hl cur.pos next.rest (.refl _)
      rw [← ht, ← hp] at this
      exact this
    rw [← hs, h]

theorem Gap.lex_eq {text : Text} {q s : Nat} (h : Gap text q s) :
    lex (.ofText text q) = lex (.ofText text s) := by
  unfold lex
  rw [Outcome.bind_of_done h, Outcome.bind_of_done (skipBlanks_again h)]

/-- The next lexeme stands behind a gap. -/
theorem exists_lexemeAt {text : Text} {q : Nat} {x : Lexed} {next : Cursor}
    (h : lex (.ofText text q) = .done (some x) next) :
    Gap text q x.start ∧ LexemeAt text x.start x.lexeme next.pos ∧ next = .ofText text next.pos := by
  have hnext := (lex_from _ _ _ h).eq_ofText
  obtain ⟨_, mid, hm, hx⟩ := Outcome.bind_eq_done.1 h
  have hmid := (skipBlanks_from _ _ _ hm).eq_ofText
  split at hx
  · cases hx
  · obtain ⟨y, _, hy⟩ := Outcome.map_eq_done.1 hx
    cases hy
    have hgap : Gap text q mid.pos := by rw [hmid] at hm; exact hm
    refine ⟨hgap, ?_, hnext⟩
    rw [LexemeAt, ← hgap.lex_eq, ← hnext]
    exact h

/-- What stands at an offset starts with the lexeme's first character. -/
theorem LexemeAt.lexemeAt {text : Text} {s n : Nat} {x : Lexeme} (h : LexemeAt text s x n) :
    ∃ c rest, text.drop s = c :: rest ∧ isBlank c = false ∧ c ≠ ';' ∧ Gap text s s ∧
      Reading.lexemeAt s c rest = .done x (.ofText text n) := by
  obtain ⟨_, mid, hm, hx⟩ := Outcome.bind_eq_done.1 h
  have hmid := (skipBlanks_from _ _ _ hm).eq_ofText
  split at hx
  · cases hx
  · rename_i c rest hr
    obtain ⟨y, hy, he⟩ := Outcome.map_eq_done.1 hx
    simp only [Option.some.injEq, Lexed.mk.injEq] at he
    obtain ⟨hs, rfl⟩ := he
    obtain ⟨hb, hc⟩ := skipBlanks_stop _ _ hm c rest hr
    rw [hs] at hmid hy
    rw [hmid] at hr hm
    exact ⟨c, rest, hr, hb, hc, hm, hy⟩

theorem LexemeAt.spelled {text : Text} {s n : Nat} {x : Lexeme} (h : LexemeAt text s x n) :
    x.Spelled s (text.drop s) (.ofText text n) := by
  obtain ⟨c, rest, hr, _, _, _, hx⟩ := h.lexemeAt
  rw [hr]
  exact lexemeAt_spelled s c rest x _ hx

/-! ## Layouts -/

/-- A form with its symbol tokens, the offsets where it starts and stops, and the
layouts of its parts. -/
inductive Layout where
  | node (piece : Piece) (start stop : Nat) (parts : List Layout)

namespace Layout

def piece : Layout → Piece
  | node p _ _ _ => p

def start : Layout → Nat
  | node _ s _ _ => s

def stop : Layout → Nat
  | node _ _ e _ => e

def parts : Layout → List Layout
  | node _ _ _ ls => ls

def form (l : Layout) : Form := l.piece.form

def occurrences (l : Layout) : List Occurrence := l.piece.occurrences

/-- The region that a layout takes up. -/
def span (l : Layout) : Span := .ofNat l.start l.stop

/-- The layout of a shorthand mark. It stands for a symbol, but it is no token. -/
def mark (m : Shorthand) (s : Nat) : Layout := node ⟨.symbol m.head, []⟩ s (s + m.mark.length) []

end Layout

/-- The contents that layouts make up between brackets. -/
def Contents.ofLayouts (items : List Layout) (tail : Option Layout) : Contents :=
  ⟨items.map Layout.form, tail.map Layout.form, (items ++ tail.toList).flatMap Layout.occurrences⟩

/-- The parts of a compound. Text properties are not part of their string. -/
def Bracket.parts (b : Bracket) (items : List Layout) (tail : Option Layout) : List Layout :=
  match b with
  | .propertied => []
  | _ => items ++ tail.toList

/-- What stands between brackets, from an offset up to behind the closing delimiter:
items with gaps between them and, in a list, perhaps a dot and a tail. -/
inductive Inside [CharacterNames] (text : Text) (b : Bracket) :
    Nat → List Layout → Option Layout → Nat → Prop
  | close {q r e : Nat} : Gap text q r → LexemeAt text r (.closer b.closer) e →
      Inside text b q [] none e
  | tail {q r d t e : Nat} {l : Layout} : b = .list → Gap text q r → LexemeAt text r .dot d →
      Gap text d l.start → Gap text l.stop t → LexemeAt text t (.closer ')') e →
      Inside text b q [] (some l) e
  | item {q e : Nat} {l : Layout} {ls : List Layout} {tail : Option Layout} : Gap text q l.start →
      Inside text b l.stop ls tail e → Inside text b q (l :: ls) tail e

/-- The grammar of layouts. A form starts with a lexeme: an atom is complete with it,
a shorthand mark needs one more form, and a bracket its contents. -/
inductive Laid [CharacterNames] (text : Text) : Layout → Prop
  | atom {s e : Nat} {f : Form} : LexemeAt text s (.atom f) e →
      Laid text (.node (.ofAtom s e f) s e [])
  | shorthand {s q : Nat} {m : Shorthand} {inner : Layout} : LexemeAt text s (.shorthand m) q →
      Gap text q inner.start → Laid text inner →
      Laid text (.node (inner.piece.shorthand m) s inner.stop [.mark m s, inner])
  | bracket {s q e : Nat} {b : Bracket} {items : List Layout} {tail : Option Layout} {p : Piece} :
      LexemeAt text s (.opener b) q → Inside text b q items tail e → (items = [] → tail = none) →
      (∀ l ∈ items ++ tail.toList, Laid text l) →
      b.build s (.ofLayouts items tail) (.ofText text e) = .done p (.ofText text e) →
      Laid text (.node p s e (b.parts items tail))

/-! ## What is read has a layout -/

theorem Contents.ofLayouts_cons (l : Layout) (ls : List Layout) (tail : Option Layout) :
    Contents.ofLayouts (l :: ls) tail = .cons l.piece (.ofLayouts ls tail) := by
  simp [ofLayouts, cons, Layout.form, Layout.occurrences]

theorem Contents.ofLayouts_tail (l : Layout) :
    Contents.ofLayouts [] (some l) = .ofTail l.piece := by
  simp [ofLayouts, ofTail, Layout.form, Layout.occurrences]

/-- Contents stand between an offset and the place behind their closing delimiter. A
tail needs an item before it. -/
def Contents.Stand [CharacterNames] (text : Text) (b : Bracket) (begun : Bool) (q : Nat)
    (c : Contents) (e : Nat) : Prop :=
  ∃ items tail, Inside text b q items tail e ∧ (∀ l ∈ items ++ tail.toList, Laid text l) ∧
    c = .ofLayouts items tail ∧ (items = [] → begun = false → tail = none)

namespace Contents.Stand

variable {text : Text} {b : Bracket} {begun : Bool} {q e : Nat}

theorem close {r : Nat} (hg : Gap text q r) (hx : LexemeAt text r (.closer b.closer) e) :
    Contents.empty.Stand text b begun q e :=
  ⟨[], none, .close hg hx, fun _ hl => absurd hl List.not_mem_nil, rfl, fun _ _ => rfl⟩

theorem tail {r d t : Nat} {l : Layout} (hl : Laid text l) (hg : Gap text q r)
    (hd : LexemeAt text r .dot d) (hs : Gap text d l.start) (ht : Gap text l.stop t)
    (hx : LexemeAt text t (.closer ')') e) :
    (Contents.ofTail l.piece).Stand text .list true q e := by
  refine ⟨[], some l, .tail rfl hg hd hs ht hx, ?_, (ofLayouts_tail l).symm, ?_⟩
  · intro l' hl'
    cases List.mem_singleton.1 hl'
    exact hl
  · intro _ hbegun
    cases hbegun

theorem cons {l : Layout} {c : Contents} (h : c.Stand text b true l.stop e) (hl : Laid text l)
    (hg : Gap text q l.start) : (Contents.cons l.piece c).Stand text b begun q e := by
  obtain ⟨items, tail, hin, hall, rfl, _⟩ := h
  refine ⟨l :: items, tail, .item hg hin, ?_, (ofLayouts_cons l items tail).symm, ?_⟩
  · intro l' hl'
    rw [List.cons_append, List.mem_cons] at hl'
    rcases hl' with rfl | hl'
    · exact hl
    · exact hall l' hl'
  · intro hnil
    cases hnil

end Contents.Stand

theorem closer_of_closeTail {text : Text} {q : Nat} {next : Cursor}
    (h : closeTail (.ofText text q) = .done () next) :
    ∃ t, Gap text q t ∧ LexemeAt text t (.closer ')') next.pos ∧ next = .ofText text next.pos := by
  have hnext := (closeTail_from _ _ _ h).eq_ofText
  obtain ⟨_, mid, hm, hx⟩ := Outcome.bind_eq_done.1 h
  have hmid := (skipBlanks_from _ _ _ hm).eq_ofText
  split at hx
  · cases hx
  · rename_i c rest hr
    split at hx
    · rename_i hc
      subst hc
      cases hx
      rw [hmid] at hm hr
      refine ⟨mid.pos, hm, ?_, hnext⟩
      unfold LexemeAt lex
      rw [Outcome.bind_of_done (skipBlanks_again hm), hr, ← hnext]
      rfl
    · cases hx

/-- The form that a bracket makes of items and a tail, if they fit it. -/
def Bracket.form? (b : Bracket) (items : List Form) (tail : Option Form) : Option Form :=
  match b with
  | .list =>
    match tail with
    | none => some (.list items)
    | some t => some (.dotted items t)
  | .vector kind => some (.vector kind items)
  | .propertied =>
    match items with
    | .string value :: _ => some (.string value)
    | _ => none

theorem Bracket.build_eq (b : Bracket) (s : Nat) (c : Contents) (next : Cursor) :
    b.build s c next = match b.form? c.items c.tail with
      | some f => .done ⟨f, c.occurrences⟩ next
      | none => .malformed s .invalidStringProperties next.pos := by
  obtain ⟨items, tail, occurrences⟩ := c
  cases b with
  | list => cases tail <;> rfl
  | vector kind => rfl
  | propertied =>
    cases items with
    | nil => rfl
    | cons f items => cases f <;> rfl

/-- Text properties make no compound. -/
theorem Bracket.isCompound_of_propertied {items : List Form} {tail : Option Form} {f : Form}
    (h : Bracket.propertied.form? items tail = some f) : f.isCompound = false := by
  cases items with
  | nil => cases h
  | cons g items =>
    cases g with
    | string value =>
      cases h
      rfl
    | _ => cases h

/-- What a bracket makes of its contents does not depend on where they stand. -/
theorem Bracket.build_eq_done {b : Bracket} {s : Nat} {c : Contents} {p : Piece}
    {next after : Cursor} :
    b.build s c next = .done p after ↔
      b.form? c.items c.tail = some p.form ∧ p.occurrences = c.occurrences ∧ after = next := by
  rw [build_eq]
  cases b.form? c.items c.tail with
  | none => simp [Outcome.malformed]
  | some f =>
    constructor
    · intro h
      cases h
      exact ⟨rfl, rfl, rfl⟩
    · rintro ⟨hf, ho, rfl⟩
      cases hf
      rw [← ho]

theorem drop_length_lt {text : Text} {q : Nat} {x : Lexed} {next : Cursor}
    (h : lex (.ofText text q) = .done (some x) next) (hn : next = .ofText text next.pos) :
    (text.drop next.pos).length < (text.drop q).length := by
  have hlt := (lex_advances h).length_lt
  rw [hn] at hlt
  exact hlt

mutual

/-- A form that was read has a layout. -/
theorem exists_laid {text : Text} {s n : Nat} {x : Lexeme} {p : Piece} {after : Cursor}
    (hx : LexemeAt text s x n) (h : readForm ⟨s, x⟩ (.ofText text n) = .done p after) :
    ∃ l, Laid text l ∧ l.piece = p ∧ l.start = s ∧ after = .ofText text l.stop := by
  rw [readForm_eq] at h
  cases x with
  | closer c => cases h
  | dot => cases h
  | atom f =>
    cases h
    exact ⟨_, .atom hx, rfl, rfl, rfl⟩
  | shorthand m =>
    obtain ⟨y, mid, hy, hp⟩ := Outcome.bind_eq_done.1 h
    cases y with
    | none => cases hp
    | some y =>
      obtain ⟨inner, hi, rfl⟩ := Outcome.map_eq_done.1 hp
      obtain ⟨hgap, hlex, hmid⟩ := exists_lexemeAt hy
      have hlt := drop_length_lt hy hmid
      rw [hmid] at hi
      obtain ⟨l, hl, rfl, hs, he⟩ := exists_laid hlex hi
      exact ⟨_, .shorthand hx (hs ▸ hgap) hl, rfl, rfl, he⟩
  | opener b =>
    obtain ⟨c, mid, hc, hb⟩ := Outcome.bind_eq_done.1 h
    obtain ⟨items, tail, hin, hall, rfl, hfirst⟩ := exists_inside hc
    rw [(readItems_from _ _ _ _ _ hc).eq_ofText] at hb
    have hafter : after = .ofText text mid.pos := (Bracket.build_eq_done.1 hb).2.2
    rw [hafter] at hb
    exact ⟨_, .bracket hx hin (fun hnil => hfirst hnil rfl) hall hb, rfl, rfl, hafter⟩
termination_by 2 * (text.drop n).length + 1
decreasing_by
  · omega
  · omega

/-- Contents that were read stand in the text. -/
theorem exists_inside {text : Text} {q : Nat} {b : Bracket} {begun : Bool} {c : Contents}
    {after : Cursor} (h : readItems b begun (.ofText text q) = .done c after) :
    c.Stand text b begun q after.pos := by
  rw [readItems_eq] at h
  obtain ⟨x, mid, hx, hc⟩ := Outcome.bind_eq_done.1 h
  cases x with
  | none => cases hc
  | some x =>
    obtain ⟨hgap, hlex, hmid⟩ := exists_lexemeAt hx
    have hlt := drop_length_lt hx hmid
    obtain ⟨s, x⟩ := x
    cases x with
    | closer d =>
      simp only at hc
      split at hc
      · rename_i hd
        subst hd
        cases hc
        exact .close hgap hlex
      · cases hc
    | dot =>
      simp only at hc
      split at hc
      · rename_i hb
        obtain ⟨rfl, rfl⟩ := hb
        rw [hmid] at hc
        obtain ⟨l, t, hl, hgap', hstop, hclose, rfl⟩ := exists_tail hc
        exact .tail hl hgap hlex hgap' hstop hclose
      · cases hc
    | atom f | shorthand m | opener b' =>
      obtain ⟨p, mid', hp, hc⟩ := Outcome.bind_eq_done.1 hc
      obtain ⟨c', hc', rfl⟩ := Outcome.map_eq_done.1 hc
      have hle := (readForm_from _ _ _ _ hp).length_le
      rw [hmid] at hp hle
      obtain ⟨l, hl, rfl, hs, rfl⟩ := exists_laid hlex hp
      exact (exists_inside hc').cons hl (hs ▸ hgap)
termination_by 2 * (text.drop q).length
decreasing_by
  all_goals
    simp only [Cursor.ofText] at *
    omega

/-- What was read after a dot has a layout. -/
theorem exists_tail {text : Text} {dot d : Nat} {c : Contents} {after : Cursor}
    (h : readAfterDot dot (.ofText text d) = .done c after) :
    ∃ l t, Laid text l ∧ Gap text d l.start ∧ Gap text l.stop t ∧
      LexemeAt text t (.closer ')') after.pos ∧ c = .ofTail l.piece := by
  rw [readAfterDot_eq] at h
  obtain ⟨x, mid, hx, hc⟩ := Outcome.bind_eq_done.1 h
  cases x with
  | none => cases hc
  | some x =>
    obtain ⟨hgap, hlex, hmid⟩ := exists_lexemeAt hx
    have hlt := drop_length_lt hx hmid
    simp only at hc
    split at hc
    · cases hc
    · obtain ⟨p, mid', hp, hc⟩ := Outcome.bind_eq_done.1 hc
      obtain ⟨_, hclose, rfl⟩ := Outcome.map_eq_done.1 hc
      rw [hmid] at hp
      obtain ⟨l, hl, rfl, hs, he⟩ := exists_laid hlex hp
      rw [he] at hclose
      obtain ⟨t, hstop, hend, _⟩ := closer_of_closeTail hclose
      exact ⟨l, t, hl, hs ▸ hgap, hstop, hend, rfl⟩
termination_by 2 * (text.drop d).length
decreasing_by omega

end

/-! ## Rows of layouts -/

/-- Layouts that stand one after the other between two offsets. -/
def Row (q : Nat) : List Layout → Nat → Prop
  | [], e => q ≤ e
  | l :: ls, e => q ≤ l.start ∧ Row l.stop ls e

theorem Row.mono {q q' e e' : Nat} {ls : List Layout} (h : Row q ls e) (hq : q' ≤ q) (he : e ≤ e') :
    Row q' ls e' := by
  induction ls generalizing q q' with
  | nil => exact Nat.le_trans hq (Nat.le_trans h he)
  | cons l ls ih => exact ⟨Nat.le_trans hq h.1, ih h.2 (Nat.le_refl _)⟩

theorem Row.le {q e : Nat} {ls : List Layout} (h : Row q ls e) (hl : ∀ l ∈ ls, l.start ≤ l.stop) :
    q ≤ e := by
  induction ls generalizing q with
  | nil => exact h
  | cons l ls ih =>
    have hle := hl l List.mem_cons_self
    have hrest := ih h.2 fun l' hl' => hl l' (List.mem_cons_of_mem _ hl')
    exact Nat.le_trans h.1 (Nat.le_trans hle hrest)

theorem Row.bounds {q e : Nat} {ls : List Layout} {l : Layout} (h : Row q ls e)
    (hle : ∀ l ∈ ls, l.start ≤ l.stop) (hl : l ∈ ls) : q ≤ l.start ∧ l.stop ≤ e := by
  induction ls generalizing q with
  | nil => cases hl
  | cons k ls ih =>
    obtain ⟨hqk, hrow⟩ := h
    have hle' : ∀ l ∈ ls, l.start ≤ l.stop := fun l hl => hle l (List.mem_cons_of_mem _ hl)
    rcases List.mem_cons.1 hl with rfl | hl
    · exact ⟨hqk, hrow.le hle'⟩
    · have := hle k List.mem_cons_self
      obtain ⟨hstart, hstop⟩ := ih hrow hle' hl
      exact ⟨by omega, hstop⟩

theorem Row.pairwise {q e : Nat} {ls : List Layout} (h : Row q ls e)
    (hle : ∀ l ∈ ls, l.start ≤ l.stop) : ls.Pairwise fun l l' => l.stop ≤ l'.start := by
  induction ls generalizing q with
  | nil => exact .nil
  | cons l ls ih =>
    have hle' : ∀ l ∈ ls, l.start ≤ l.stop := fun l hl => hle l (List.mem_cons_of_mem _ hl)
    exact .cons (fun l' hl' => (h.2.bounds hle' hl').1) (ih h.2 hle')

/-- Items and tail stand in a row that ends before the closing delimiter. -/
theorem Inside.row {text : Text} {b : Bracket} {q e : Nat} {items : List Layout}
    {tail : Option Layout} (h : Inside text b q items tail e) :
    ∃ r, Row q (items ++ tail.toList) r ∧ r < e ∧ e ≤ text.length := by
  induction h with
  | close hg hx => exact ⟨_, hg.le, hx.bounds⟩
  | tail _ hg hd hg' hstop hx =>
    refine ⟨_, ⟨?_, hstop.le⟩, hx.bounds⟩
    have := hg.le
    have := hd.bounds
    have := hg'.le
    omega
  | item hg _ ih =>
    obtain ⟨r, hr, he⟩ := ih
    exact ⟨r, ⟨hg.le, hr⟩, he⟩

/-- A form has at least one character and lies in the text. -/
theorem Laid.bounds {text : Text} {l : Layout} (h : Laid text l) :
    l.start < l.stop ∧ l.stop ≤ text.length := by
  induction h with
  | atom hx => exact hx.bounds
  | shorthand hx hg _ ih =>
    have := hx.bounds
    have := hg.le
    simp only [Layout.start, Layout.stop] at *
    omega
  | bracket hx hin _ _ _ ih =>
    obtain ⟨r, hr, he⟩ := hin.row
    have := hr.le fun l hl => Nat.le_of_lt (ih l hl).1
    have := hx.bounds
    simp only [Layout.start, Layout.stop]
    omega

theorem Laid.start_le_stop {text : Text} {l : Layout} (h : Laid text l) : l.start ≤ l.stop :=
  Nat.le_of_lt h.bounds.1

theorem Inside.lt {text : Text} {b : Bracket} {q e : Nat} {items : List Layout}
    {tail : Option Layout} (h : Inside text b q items tail e)
    (hall : ∀ l ∈ items ++ tail.toList, Laid text l) : q < e := by
  obtain ⟨r, hr, he, _⟩ := h.row
  exact Nat.lt_of_le_of_lt (hr.le fun l hl => (hall l hl).start_le_stop) he

/-- Only a list has something after a dot. -/
theorem Inside.tail_eq_none {text : Text} {b : Bracket} {q e : Nat} {items : List Layout}
    {tail : Option Layout} (h : Inside text b q items tail e) (hb : b ≠ .list) : tail = none := by
  induction h with
  | close => rfl
  | tail hl => exact absurd hl hb
  | item _ _ ih => exact ih

theorem Piece.form_ofAtom (s e : Nat) (f : Form) :
    (Piece.ofAtom s e f).form = f := by cases f <;> rfl

/-- The parts of a layout are the layouts of the elements of its form. -/
theorem Laid.parts_form {text : Text} {l : Layout} (h : Laid text l) :
    l.parts.map Layout.form = l.form.elements := by
  cases h with
  | @atom s e f hx =>
    show [] = (Piece.ofAtom s e f).form.elements
    rw [Piece.form_ofAtom, Form.elements_of_not_isCompound hx.spelled]
  | shorthand => rfl
  | @bracket s q e b items tail p hx hin hfirst hall hb =>
    show (b.parts items tail).map Layout.form = p.form.elements
    obtain ⟨hf, _⟩ := Bracket.build_eq_done.1 hb
    cases b with
    | list =>
      cases tail <;> rw [← Option.some.inj hf] <;>
        simp [Bracket.parts, Form.elements, Contents.ofLayouts]
    | vector kind =>
      rw [← Option.some.inj hf, hin.tail_eq_none (fun hb => by cases hb)]
      simp [Bracket.parts, Form.elements, Contents.ofLayouts]
    | propertied =>
      rw [Form.elements_of_not_isCompound (Bracket.isCompound_of_propertied hf)]
      rfl

/-- What holds of the marks of shorthands, and of a layout if it holds of its parts,
holds of all layouts of a text. -/
theorem Laid.induction_on_parts {text : Text} {P : Layout → Prop}
    (hmark : ∀ {m s q}, LexemeAt text s (.shorthand m) q → P (.mark m s))
    (hparts : ∀ {l}, Laid text l → (∀ l' ∈ l.parts, P l') → P l) {l : Layout} (h : Laid text l) :
    P l := by
  induction h with
  | atom hx => exact hparts (.atom hx) nofun
  | shorthand hx hg hi ih =>
    refine hparts (.shorthand hx hg hi) fun l' hl' => ?_
    rcases List.mem_cons.1 hl' with rfl | hl'
    · exact hmark hx
    · cases List.mem_singleton.1 hl'
      exact ih
  | @bracket s q e b items tail p hx hin hfirst hall hb ih =>
    refine hparts (.bracket hx hin hfirst hall hb) fun l' hl' => ih l' ?_
    cases b with
    | propertied => cases hl'
    | _ => exact hl'

/-! ## The forms of a text -/

/-- The top-level form of a layout. -/
def Layout.positioned (l : Layout) : Positioned := .ofPiece l.start l.stop l.piece

theorem exists_laid_of_nextForm {text : Text} {q : Nat} {p : Positioned} {next : Cursor}
    (h : nextForm (.ofText text q) = .done (some p) next) :
    ∃ l, Laid text l ∧ Gap text q l.start ∧ p = l.positioned ∧ next = .ofText text l.stop := by
  obtain ⟨x, mid, hx, hp⟩ := Outcome.bind_eq_done.1 h
  cases x with
  | none => cases hp
  | some x =>
    obtain ⟨hgap, hlex, hmid⟩ := exists_lexemeAt hx
    obtain ⟨piece, after, hr, hdone⟩ := Outcome.bind_eq_done.1 hp
    rw [hmid] at hr
    obtain ⟨l, hl, rfl, hs, rfl⟩ := exists_laid hlex hr
    cases hdone
    rw [← hs]
    exact ⟨l, hl, hs ▸ hgap, rfl, rfl⟩

theorem exists_row_of_readForms {text : Text} {q : Nat} {forms : List Positioned}
    (hq : q ≤ text.length) (h : readForms (.ofText text q) = .ok forms) :
    ∃ ls, (∀ l ∈ ls, Laid text l) ∧ Row q ls text.length ∧ forms = ls.map Layout.positioned := by
  rw [readForms.eq_def] at h
  split at h
  · rename_i p next hn
    obtain ⟨l, hl, hg, rfl, rfl⟩ := exists_laid_of_nextForm hn
    have hlt : (text.drop l.stop).length < (text.drop q).length := (nextForm_advances hn).length_lt
    split at h
    · rename_i rest hrest
      cases h
      obtain ⟨ls, hall, hrow, rfl⟩ := exists_row_of_readForms hl.bounds.2 hrest
      refine ⟨l :: ls, ?_, ⟨hg.le, hrow⟩, rfl⟩
      intro l' hl'
      rcases List.mem_cons.1 hl' with rfl | hl'
      · exact hl
      · exact hall l' hl'
    · cases h
  · cases h
    exact ⟨[], fun _ hl => absurd hl List.not_mem_nil, hq, rfl⟩
  · cases h
    exact ⟨[], fun _ hl => absurd hl List.not_mem_nil, hq, rfl⟩
  · cases h
termination_by (text.drop q).length
decreasing_by exact hlt

/-- A text that can be read is a row of layouts. -/
theorem exists_row_of_readAll {text : Text} {forms : List Positioned}
    (h : readAll text = .ok forms) :
    ∃ ls, (∀ l ∈ ls, Laid text l) ∧ Row 0 ls text.length ∧ forms = ls.map Layout.positioned := by
  unfold readAll at h
  split at h
  · rename_i hr
    cases h
    exact exists_row_of_readForms (Nat.zero_le _) hr
  · cases h

end Reading

end LispXref
