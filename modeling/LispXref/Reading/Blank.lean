-- What stands between forms: blanks, comments, interpreter lines and blocks to
-- skip. Main statement: skipping stops at the end of the text or at a character
-- that is neither a blank nor the start of a comment.
import LispXref.Reading.Cursor

namespace LispXref.Reading

/-- The blanks of Lisp source: controls, the space and the no-break space. -/
def isBlank (c : CodePoint) : Bool := decide (c.val ≤ 0x20) || decide (c.val = 0xA0)

/-- The place after the current line. -/
def afterLine (pos : Nat) : Text → Cursor
  | [] => ⟨pos, []⟩
  | c :: rest => if c = '\n' then ⟨pos + 1, rest⟩ else afterLine (pos + 1) rest

theorem reaches_afterLine (pos : Nat) (t : Text) : Cursor.Reaches ⟨pos, t⟩ (afterLine pos t) := by
  induction t generalizing pos with
  | nil => exact .refl _
  | cons c rest ih =>
    unfold afterLine
    split
    · exact (Cursor.advances_cons pos c rest).reaches
    · exact (Cursor.advances_cons pos c rest).reaches.trans (ih (pos + 1))

/-- Skips a block given by its size. `t` follows the mark `#@` at offset `mark`:
`#@N` skips as many characters after its digits as they say, and `#@00` skips
all that is left. -/
def skipBlock (mark : Nat) (t : Text) : Outcome Unit :=
  let digits := t.takeWhile CodePoint.isDigit
  let after := t.drop digits.length
  let pos := mark + 2 + digits.length
  if digits.isEmpty then .malformed mark .invalidSkip mark
  else if digits = Text.of "00" then .done () ⟨pos + after.length, []⟩
  else match Numeral.parse 10 digits with
    | .error e => .failed (.numeral digits e) mark
    | .ok n => .done () ⟨pos + min n.toNat after.length, after.drop n.toNat⟩

theorem skipBlock_from (mark : Nat) (t : Text) : (skipBlock mark t).From ⟨mark + 2, t⟩ := by
  have hd : Cursor.Reaches ⟨mark + 2, t⟩
      ⟨mark + 2 + (t.takeWhile CodePoint.isDigit).length, t.drop (t.takeWhile CodePoint.isDigit).length⟩ :=
    Cursor.reaches_drop _ _ _ (List.takeWhile_prefix _).length_le
  intro a next h
  unfold skipBlock at h
  dsimp only at h
  split at h
  · simp [Outcome.malformed] at h
  · split at h
    · simp only [Outcome.done.injEq, true_and] at h
      subst h
      exact hd.trans ⟨_, (List.append_nil _).symm, rfl⟩
    · split at h
      · simp at h
      · rename_i n _
        simp only [Outcome.done.injEq, true_and] at h
        subst h
        exact hd.trans ⟨_, (List.take_append_drop n.toNat _).symm, by simp [List.length_take]⟩

/-- Skips what may stand before a form: blanks, comments from `;` to the end of
the line, lines that start with `#!`, and blocks given by their size. -/
def skipBlanks (cur : Cursor) : Outcome Unit :=
  match _h : cur.rest with
  | [] => .done () cur
  | c :: rest =>
    if isBlank c then skipBlanks ⟨cur.pos + 1, rest⟩
    else if c = ';' then skipBlanks (afterLine (cur.pos + 1) rest)
    else if c = '#' then
      match rest with
      | [] => .done () cur
      | d :: rest' =>
        if d = '!' then skipBlanks (afterLine (cur.pos + 2) rest')
        else if d = '@' then
          match _hb : skipBlock cur.pos rest' with
          | .done () next => skipBlanks next
          | .truncated stop => .truncated stop
          | .failed fault stop => .failed fault stop
        else .done () cur
    else .done () cur
termination_by cur.rest.length
decreasing_by
  · simp [_h]
  · have := (reaches_afterLine (cur.pos + 1) rest).length_le
    simp only [_h, List.length_cons] at *; omega
  · have := (reaches_afterLine (cur.pos + 2) rest').length_le
    simp only [_h, List.length_cons] at *; omega
  · have := (skipBlock_from cur.pos rest' () next _hb).length_le
    simp only [_h, List.length_cons] at *; omega

theorem skipBlanks_from (cur : Cursor) : (skipBlanks cur).From cur := by
  fun_induction skipBlanks cur with
  | case1 | case4 | case9 | case10 => exact .done _ _
  | case7 => exact .truncated _ _
  | case8 => exact .failed _ _ _
  | case2 cur c rest h _ ih => exact ih.of_reaches (Cursor.reaches_of_rest [c] h)
  | case3 cur rest h _ ih =>
    exact (ih.of_reaches (reaches_afterLine _ _)).of_reaches (Cursor.reaches_of_rest [_] h)
  | case5 cur rest _ _ _ h ih =>
    exact (ih.of_reaches (reaches_afterLine _ _)).of_reaches (Cursor.reaches_of_rest [_, _] h)
  | case6 cur rest next hb _ _ _ _ h ih =>
    exact (ih.of_reaches (skipBlock_from _ _ () next hb)).of_reaches
      (Cursor.reaches_of_rest [_, _] h)

/-- Skipping stops at the end of the text, or at a character that is neither a
blank nor the start of a comment. -/
theorem skipBlanks_stop (cur : Cursor) (next : Cursor) (h : skipBlanks cur = .done () next) :
    ∀ c rest, next.rest = c :: rest → isBlank c = false ∧ c ≠ ';' := by
  fun_induction skipBlanks cur with
  | case1 cur hr =>
    cases h
    simp [hr]
  | case2 _ _ _ _ _ ih | case3 _ _ _ _ ih | case5 _ _ _ _ _ _ ih | case6 _ _ _ _ _ _ _ _ _ ih =>
    exact ih h
  | case4 _ hb hc _ hr | case9 _ _ _ _ _ hb hc _ hr | case10 _ _ _ hr hb hc _ =>
    cases h
    rintro _ _ ht
    rw [hr] at ht
    cases ht
    exact ⟨by simpa using hb, hc⟩
  | case7 => simp at h
  | case8 => simp at h

end LispXref.Reading
