-- The forms of a text in sequence, and how they are carried over to another text that
-- begins alike or holds the same characters further on. Main statement, for two texts
-- that agree a little beyond a form: the forms up to that one are read from both.
import LispXref.Proofs.Alone
import LispXref.Proofs.Carry
import LispXref.Reading.Session

namespace LispXref.Reading

/-! ## Sequences of forms -/

variable {known : CharacterNames}

/-- Reading goes on behind the next form. -/
theorem readForms_of_nextForm {cur next : Cursor} {p : Positioned}
    (h : nextForm cur = .done (some p) next) : readForms cur = (readForms next).map (p :: ·) := by
  rw [readForms.eq_def, h]
  dsimp only
  cases readForms next <;> rfl

/-- Forms stand one after the other between two offsets, with nothing but gaps between
them. -/
def Follow [CharacterNames] (text : Text) (q : Nat) : List Layout → Nat → Prop
  | [], e => q = e
  | l :: ls, e => Gap text q l.start ∧ Laid text l ∧ Follow text l.stop ls e

namespace Follow

variable {text : Text} {q e : Nat} {ls : List Layout}

theorem laid (h : Follow text q ls e) : ∀ l ∈ ls, Laid text l := by
  intro l hl
  induction ls generalizing q with
  | nil => cases hl
  | cons l' ls ih =>
    obtain ⟨_, hlaid, hrest⟩ := h
    rcases List.mem_cons.1 hl with rfl | hl
    · exact hlaid
    · exact ih hrest hl

theorem row (h : Follow text q ls e) : Row q ls e := by
  induction ls generalizing q with
  | nil => exact Nat.le_of_eq h
  | cons l ls ih =>
    obtain ⟨hg, _, hrest⟩ := h
    exact ⟨hg.le, ih hrest⟩

theorem stop_le (h : Follow text q ls e) (hq : q ≤ text.length) : e ≤ text.length := by
  induction ls generalizing q with
  | nil =>
    cases h
    exact hq
  | cons l ls ih =>
    obtain ⟨_, hl, hrest⟩ := h
    exact ih hrest hl.bounds.2

/-- A sequence ends where its last form does. -/
theorem stop_eq (h : Follow text q ls e) {l : Layout} (hl : ls.getLast? = some l) : l.stop = e := by
  induction ls generalizing q with
  | nil => cases hl
  | cons l' ls ih =>
    obtain ⟨_, _, hrest⟩ := h
    cases ls with
    | nil =>
      cases hl
      exact hrest
    | cons l'' ls =>
      rw [List.getLast?_cons_cons] at hl
      exact ih hrest hl

/-- Reading a text reads its sequences. -/
theorem readForms_eq (h : Follow text q ls e) :
    readForms (.ofText text q) =
      (readForms (.ofText text e)).map (ls.map Layout.positioned ++ ·) := by
  induction ls generalizing q with
  | nil =>
    cases h
    cases readForms (.ofText text e) <;> rfl
  | cons l ls ih =>
    obtain ⟨hg, hlaid, hrest⟩ := h
    rw [readForms_of_nextForm (hlaid.reads.nextForm hg), ih hrest]
    cases readForms (.ofText text e) <;> rfl

theorem readForms_of_end (h : Follow text q ls e) (hend : readForms (.ofText text e) = .ok []) :
    readForms (.ofText text q) = .ok (ls.map Layout.positioned) := by
  rw [h.readForms_eq, hend]
  show Except.ok (ls.map Layout.positioned ++ []) = _
  rw [List.append_nil]

end Follow

/-- Only what follows the blanks and comments is read. -/
theorem readForms_of_skipBlanks_eq {a b : Cursor} (h : skipBlanks a = skipBlanks b) :
    readForms a = readForms b := by
  have hnext : nextForm a = nextForm b := by
    unfold nextForm lex
    rw [h]
  rw [readForms.eq_def, readForms.eq_def b, hnext]

/-- Whatever is read from a text stands there in sequence, and nothing more is read
behind it. -/
theorem exists_follow_of_readForms {text : Text} {q : Nat} {forms : List Positioned}
    (h : readForms (.ofText text q) = .ok forms) :
    ∃ ls e, Follow text q ls e ∧ readForms (.ofText text e) = .ok [] ∧
      forms = ls.map Layout.positioned := by
  have hdef := h
  rw [readForms.eq_def] at h
  split at h
  · rename_i p next hn
    obtain ⟨l, hl, hg, rfl, rfl⟩ := exists_laid_of_nextForm hn
    have hlt : (text.drop l.stop).length < (text.drop q).length := (nextForm_advances hn).length_lt
    split at h
    · rename_i rest hrest
      cases h
      obtain ⟨ls, e, hfollow, hend, rfl⟩ := exists_follow_of_readForms hrest
      exact ⟨l :: ls, e, ⟨hg, hl, hfollow⟩, hend, rfl⟩
    · cases h
  · cases h
    exact ⟨[], q, rfl, hdef, rfl⟩
  · cases h
    exact ⟨[], q, rfl, hdef, rfl⟩
  · cases h
termination_by (text.drop q).length
decreasing_by exact hlt

theorem readAll_eq (text : Text) :
    readAll text = (readForms (.ofText text 0)).mapError Halt.fault := by
  unfold readAll
  rw [show Cursor.ofText text 0 = ⟨0, text⟩ from rfl]
  cases readForms ⟨0, text⟩ <;> rfl

/-- The forms of a text that can be read. -/
theorem exists_follow_of_readAll {text : Text} {forms : List Positioned}
    (h : readAll text = .ok forms) :
    ∃ ls e, Follow text 0 ls e ∧ readForms (.ofText text e) = .ok [] ∧
      forms = ls.map Layout.positioned := by
  rw [readAll_eq] at h
  cases hr : readForms (.ofText text 0) with
  | ok fs =>
    rw [hr] at h
    cases h
    exact exists_follow_of_readForms hr
  | error halt =>
    rw [hr] at h
    cases h

/-! ## Carrying sequences -/

/-- A clear sequence is carried over. -/
theorem Follow.carry {text text' : Text} {m : Moves} {K : Nat → Nat → Prop} {q e : Nat}
    {ls : List Layout} (h : Follow text q ls e) (c : Carry text text' m K)
    (hc : ClearRow K q ls e) : Follow text' (m.stop q) (ls.map (.move m)) (m.stop e) := by
  induction ls generalizing q with
  | nil => exact congrArg m.stop h
  | cons l ls ih =>
    obtain ⟨hg, hl, hrest⟩ := h
    cases hc with
    | cons hk hcl hrow =>
      refine ⟨?_, hl.carry c hcl, ?_⟩
      · rw [Layout.start_move]
        exact c.gap_of_laid hk hg hl hcl
      · rw [Layout.stop_move]
        exact ih hrest hrow

/-! ## Texts that begin alike -/

/-- Two texts have the same characters up to an offset, and a seam there. -/
structure Agree (text text' : Text) (e : Nat) : Prop where
  take_eq : text'.take e = text.take e
  seam : Seam (text.drop e) (text'.drop e)

namespace Agree

variable {text text' : Text} {e : Nat}

theorem cut_eq (h : Agree text text' e) {s n : Nat} (hn : n ≤ e) : cut text' s n = cut text s n := by
  have htake := congrArg (List.take n) h.take_eq
  rw [List.take_take, List.take_take, Nat.min_eq_left hn] at htake
  rw [cut, cut, htake]

theorem drop_eq (h : Agree text text' e) {s n : Nat} (hs : s ≤ n) (hn : n ≤ e) :
    text'.drop s = cut text s n ++ text'.drop n := by
  rw [← h.cut_eq hn]
  exact drop_eq_cut_append text' hs

theorem seam_of_le (h : Agree text text' e) {n : Nat} (hn : n ≤ e) :
    Seam (text.drop n) (text'.drop n) := by
  rw [h.drop_eq hn (Nat.le_refl e), drop_eq_cut_append text hn]
  exact h.seam.append _

theorem lexeme (h : Agree text text' e) {s n : Nat} {x : Lexeme} (hn : n ≤ e)
    (hx : LexemeAt text s x n) : LexemeAt text' s x n := by
  have hsn := Nat.le_of_lt hx.bounds.1
  have hagain := hx.again (h.drop_eq hsn hn) (h.seam_of_le hn)
  rw [Nat.add_sub_cancel' hsn] at hagain
  exact hagain

/-- A gap before the offset is skipped up to where it ended. -/
theorem skip_gap (h : Agree text text' e) {q s n : Nat} {x : Lexeme} (hs : s ≤ e)
    (hg : Gap text q s) (hx : LexemeAt text s x n) :
    skipBlanks (.ofText text' q) = skipBlanks (.ofText text' s) := by
  have hskip := hg.skip_again hx (h.drop_eq hg.le hs) (h.seam_of_le hs)
  rw [Nat.add_sub_cancel' hg.le] at hskip
  exact hskip

theorem gap (h : Agree text text' e) {q s n : Nat} {x : Lexeme} (hn : n ≤ e) (hg : Gap text q s)
    (hx : LexemeAt text s x n) : Gap text' q s := by
  have hs : s ≤ e := Nat.le_trans (Nat.le_of_lt hx.bounds.1) hn
  exact (h.skip_gap hs hg hx).trans (h.lexeme hn hx).gap_self

end Agree

/-- Offsets that stay. -/
def Moves.stay : Moves := ⟨id, id⟩

theorem Piece.move_stay (p : Piece) : p.move .stay = p := by
  have h : Occurrence.move Moves.stay = id := rfl
  rw [move, h, List.map_id]

theorem Layout.move_stay (l : Layout) : l.move .stay = l := by
  cases l with
  | node p s e parts =>
    have hparts : parts.map (move .stay) = parts := by
      rw [List.map_congr_left fun l hl => move_stay l]
      exact List.map_id' parts
    rw [move_node, Piece.move_stay, hparts]
    rfl

/-- What ends by the offset is carried over where it stands. -/
theorem Agree.carry {text text' : Text} {e : Nat} (h : Agree text text' e) :
    Carry text text' .stay fun _ n => n ≤ e where
  narrows hk _ he := Nat.le_trans he hk
  lexeme hk hx := h.lexeme hk hx
  gap _ hk hg hx := h.gap hk hg hx
  width _ hlt := (Nat.add_sub_cancel' (Nat.le_of_lt hlt)).symm

/-- A sequence of forms stands in every text that agrees up to its end. -/
theorem Follow.of_agree {text text' : Text} {q e : Nat} {ls : List Layout}
    (h : Follow text q ls e) (ha : Agree text text' e) : Follow text' q ls e := by
  have hrow := h.row.clear (K := fun _ n => n ≤ e) ha.carry.narrows
    (fun l hl => (h.laid l hl).start_le_stop) (Nat.le_refl e) (Nat.le_refl q) (Nat.le_refl e)
  have hcarried := h.carry ha.carry hrow
  rw [List.map_congr_left fun l _ => l.move_stay, List.map_id'] at hcarried
  exact hcarried

end LispXref.Reading
