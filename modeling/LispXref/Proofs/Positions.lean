-- Lines, columns and offsets. Main statement: the lines of a text put together are the text,
-- and the position of an offset names the one line and the one column where it stands.
import LispXref.Proofs.Lines
import LispXref.Proofs.Pieces
import Mathlib.Data.List.Induction

namespace LispXref

/-! ## One line of a text -/

/-- A text taken apart around one of its lines. -/
structure Text.LineAt (text before line rest : Text) : Prop where
  whole : before ++ line ++ rest = text
  begins : before = [] ∨ before.getLast? = some (CodePoint.ofChar '\n')
  unbroken : CodePoint.ofChar '\n' ∉ line
  ends : rest = [] ∨ ∃ more, rest = CodePoint.ofChar '\n' :: more

namespace Text

/-- A line goes on up to the next line break. -/
theorem exists_lineAt_append {before : Text}
    (h : before = [] ∨ before.getLast? = some (CodePoint.ofChar '\n')) {front : Text}
    (hfront : CodePoint.ofChar '\n' ∉ front) (after : Text) :
    ∃ line rest, LineAt (before ++ front ++ after) before (front ++ line) rest := by
  let p : CodePoint → Bool := (· ≠ CodePoint.ofChar '\n')
  refine ⟨after.takeWhile p, after.dropWhile p, ?_, h, ?_, ?_⟩
  · rw [List.append_assoc, List.append_assoc, List.takeWhile_append_dropWhile, List.append_assoc]
  · rw [List.mem_append, not_or]
    refine ⟨hfront, fun hmem => ?_⟩
    have hall := List.all_eq_true.1 List.all_takeWhile _ hmem
    simp [p] at hall
  · cases hdrop : after.dropWhile p with
    | nil => exact .inl rfl
    | cons c more =>
      have hc := List.head?_dropWhile_not p after
      rw [hdrop] at hc
      exact .inr ⟨more, congrArg (· :: more) (by simpa [p] using hc)⟩

/-- A text ends in a line. -/
theorem exists_last_line (t : Text) : ∃ before line, t = before ++ line ∧
    (before = [] ∨ before.getLast? = some (CodePoint.ofChar '\n')) ∧ CodePoint.ofChar '\n' ∉ line := by
  induction t using List.reverseRecOn with
  | nil => exact ⟨[], [], rfl, .inl rfl, List.not_mem_nil⟩
  | append_singleton t c ih =>
    by_cases hc : c = CodePoint.ofChar '\n'
    · exact ⟨t ++ [c], [], by simp, .inr (by simp [hc]), List.not_mem_nil⟩
    · obtain ⟨before, line, rfl, hbegins, hline⟩ := ih
      refine ⟨before, line ++ [c], by simp, hbegins, ?_⟩
      simp [hline, Ne.symm hc]

/-- Every offset stands in a line or right behind it. -/
theorem exists_lineAt_of_offset {text : Text} {offset : Nat} (h : offset ≤ text.length) :
    ∃ before line rest, LineAt text before line rest ∧ before.length ≤ offset ∧
      offset ≤ before.length + line.length := by
  obtain ⟨before, front, hsplit, hbegins, hfront⟩ := exists_last_line (text.take offset)
  obtain ⟨line, rest, hline⟩ := exists_lineAt_append hbegins hfront (text.drop offset)
  rw [← hsplit, List.take_append_drop] at hline
  have hlength := congrArg List.length hsplit
  rw [List.length_take, Nat.min_eq_left h, List.length_append] at hlength
  refine ⟨before, front ++ line, rest, hline, ?_, ?_⟩
  · omega
  · rw [List.length_append]
    omega

namespace LineAt

variable {text before line rest : Text}

theorem count_before (h : LineAt text before line rest) :
    before.count (CodePoint.ofChar '\n') ≤ text.count (CodePoint.ofChar '\n') := by
  rw [← h.whole, List.append_assoc, List.count_append]
  omega

/-- The line behind a line that is not the last. -/
theorem exists_next (h : LineAt text before line rest)
    (hnot : before.count (CodePoint.ofChar '\n') < text.count (CodePoint.ofChar '\n')) :
    ∃ before' line' rest', LineAt text before' line' rest' ∧
      before'.count (CodePoint.ofChar '\n') = before.count (CodePoint.ofChar '\n') + 1 := by
  rcases h.ends with rfl | ⟨more, rfl⟩
  · rw [← h.whole, List.append_nil, List.count_append, List.count_eq_zero.2 h.unbroken] at hnot
    omega
  · have hbegins : (before ++ line ++ [CodePoint.ofChar '\n']).getLast? =
        some (CodePoint.ofChar '\n') := by simp
    obtain ⟨line', rest', hline⟩ := exists_lineAt_append (.inr hbegins) List.not_mem_nil more
    have hwhole : before ++ line ++ [CodePoint.ofChar '\n'] ++ [] ++ more = text := by
      rw [← h.whole]
      simp
    rw [hwhole] at hline
    refine ⟨_, _, _, hline, ?_⟩
    rw [List.count_append, List.count_append, List.count_eq_zero.2 h.unbroken]
    simp

/-- The pieces of a text between line breaks are its lines. -/
theorem getElem?_splitAt (h : LineAt text before line rest) :
    (splitAt (CodePoint.ofChar '\n') text)[before.count (CodePoint.ofChar '\n')]? = some line := by
  have hfirst : ∃ more, splitAt (CodePoint.ofChar '\n') (line ++ rest) = line :: more := by
    rcases h.ends with rfl | ⟨more, rfl⟩
    · rw [List.append_nil, splitAt_of_not_mem h.unbroken]
      exact ⟨_, rfl⟩
    · exact ⟨_, splitAt_append_of_not_mem h.unbroken more⟩
  obtain ⟨more, hfirst⟩ := hfirst
  rw [← h.whole, List.append_assoc]
  rcases h.begins with rfl | hbegins
  · rw [List.nil_append, hfirst]
    rfl
  · obtain ⟨front, rfl⟩ := List.getLast?_eq_some_iff.1 hbegins
    have hindex : (front ++ [CodePoint.ofChar '\n']).count (CodePoint.ofChar '\n') =
        (splitAt (CodePoint.ofChar '\n') front).length := by
      rw [length_splitAt, List.count_append, List.count_singleton_self]
    rw [List.append_assoc, List.singleton_append, splitAt_append_cons, hindex,
      List.getElem?_append_right (Nat.le_refl _), Nat.sub_self, hfirst]
    rfl

end LineAt

/-- Every number below the number of lines is that of a line. -/
theorem exists_lineAt_of_count (text : Text) {k : Nat} (h : k ≤ text.count (CodePoint.ofChar '\n')) :
    ∃ before line rest, LineAt text before line rest ∧ before.count (CodePoint.ofChar '\n') = k := by
  induction k with
  | zero =>
    obtain ⟨line, rest, hline⟩ := exists_lineAt_append (.inl rfl) List.not_mem_nil text
    exact ⟨_, _, _, hline, rfl⟩
  | succ k ih =>
    obtain ⟨before, line, rest, hline, rfl⟩ := ih (Nat.le_of_succ_le h)
    exact hline.exists_next h

end Text

namespace LineIndex

open Text

/-! ## The table of line starts -/

theorem lineCount_ofText (text : Text) :
    (ofText text).lineCount = text.count (CodePoint.ofChar '\n') + 1 := by
  rw [lineCount, ofText, List.length_cons, length_startsFrom]

theorem pairwise_startsFrom (pos : Nat) (t : Text) : (startsFrom pos t).Pairwise (· < ·) := by
  induction t generalizing pos with
  | nil => exact .nil
  | cons c t ih =>
    unfold startsFrom
    split
    · exact .cons (fun s hs => (lt_of_mem_startsFrom hs).1) (ih (pos + 1))
    · exact ih (pos + 1)

/-- The starts of lines are strictly increasing. -/
theorem pairwise_starts (text : Text) : (ofText text).starts.Pairwise (· < ·) :=
  .cons (fun _ hs => (lt_of_mem_startsFrom hs).1) (pairwise_startsFrom 0 text)

/-- The starts at or before an offset, and those behind it. -/
theorem starts_eq_append {text : Text} {offset : Nat} (h : offset ≤ text.length) :
    (ofText text).starts =
      (0 :: startsFrom 0 (text.take offset)) ++ startsFrom offset (text.drop offset) := by
  have hsplit := startsFrom_append 0 (text.take offset) (text.drop offset)
  rw [List.take_append_drop, List.length_take, Nat.min_eq_left h, Nat.zero_add] at hsplit
  rw [ofText, hsplit, List.cons_append]

theorem signedGet?_natCast {α : Type} (xs : List α) (i : Nat) : signedGet? xs (i : Int) = xs[i]? := by
  rw [signedGet?, if_pos (Int.natCast_nonneg i), Int.toNat_natCast]

theorem lineText?_of_next {ix : LineIndex} {k start next : Nat} (hstart : ix.starts[k]? = some start)
    (hnext : ix.starts[k + 1]? = some next) :
    ix.lineText? ((k + 1 : Nat) : Int) = some (slice ix.text start ((next : Int) - 1)) := by
  have hlt : k + 1 < ix.lineCount := (List.getElem?_eq_some_iff.1 hnext).1
  have hindex : ((k + 1 : Nat) : Int) - 1 = (k : Nat) := by omega
  unfold lineText?
  rw [hindex, signedGet?_natCast, signedGet?_natCast, hstart, hnext]
  exact if_pos (Int.ofNat_lt.2 hlt)

theorem lineText?_of_last {ix : LineIndex} {k start : Nat} (hstart : ix.starts[k]? = some start)
    (hlast : ix.lineCount = k + 1) :
    ix.lineText? ((k + 1 : Nat) : Int) = some (slice ix.text start (ix.text.length : Nat)) := by
  have hindex : ((k + 1 : Nat) : Int) - 1 = (k : Nat) := by omega
  unfold lineText?
  rw [hindex, signedGet?_natCast, hstart, hlast]
  exact if_neg (Int.lt_irrefl _)

section LineAt

variable {text before line rest : Text}

theorem start_of_lineAt (h : LineAt text before line rest) :
    (ofText text).starts[before.count (CodePoint.ofChar '\n')]? = some before.length := by
  rw [← h.whole, List.append_assoc]
  exact getElem?_starts_append h.begins _

theorem slice_of_lineAt (h : LineAt text before line rest) :
    slice text before.length ((before.length + line.length : Nat) : Int) = line := by
  have hlength := congrArg List.length h.whole
  rw [List.length_append, List.length_append] at hlength
  rw [slice_natCast text (by omega) (by omega), ← h.whole, ← List.length_append, List.take_left,
    List.drop_left]

/-- The text of a line is what stands in it. -/
theorem lineText?_of_lineAt (h : LineAt text before line rest) :
    (ofText text).lineText? ((before.count (CodePoint.ofChar '\n') + 1 : Nat) : Int) = some line := by
  have hstart := start_of_lineAt h
  rcases h.ends with rfl | ⟨more, rfl⟩
  · -- The last line ends with the text.
    have hcount : text.count (CodePoint.ofChar '\n') = before.count (CodePoint.ofChar '\n') := by
      rw [← h.whole, List.append_nil, List.count_append, List.count_eq_zero.2 h.unbroken, Nat.add_zero]
    have hlength : text.length = before.length + line.length := by
      rw [← h.whole, List.append_nil, List.length_append]
    rw [lineText?_of_last hstart (by rw [lineCount_ofText, hcount])]
    exact congrArg some (by rw [show (ofText text).text = text from rfl, hlength, slice_of_lineAt h])
  · -- Any other line ends one before the start of the next.
    have hbegins : (before ++ line ++ [CodePoint.ofChar '\n']).getLast? =
        some (CodePoint.ofChar '\n') := by simp
    have hnext := getElem?_starts_append (.inr hbegins) more
    have hwhole : before ++ line ++ [CodePoint.ofChar '\n'] ++ more = text := by
      rw [← h.whole]
      simp
    have hcount : (before ++ line ++ [CodePoint.ofChar '\n']).count (CodePoint.ofChar '\n') =
        before.count (CodePoint.ofChar '\n') + 1 := by
      rw [List.count_append, List.count_append, List.count_eq_zero.2 h.unbroken,
        List.count_singleton_self]
    have hstop : (((before ++ line ++ [CodePoint.ofChar '\n']).length : Nat) : Int) - 1 =
        ((before.length + line.length : Nat) : Int) := by
      rw [List.length_append, List.length_append, List.length_singleton]
      omega
    rw [hwhole, hcount] at hnext
    rw [lineText?_of_next hstart hnext, hstop]
    exact congrArg some (slice_of_lineAt h)

theorem position_of_lineAt (h : LineAt text before line rest) {j : Nat} (hj : j ≤ line.length) :
    (ofText text).position ((before.length + j : Nat) : Int) =
      (((before.count (CodePoint.ofChar '\n') + 1 : Nat) : Int), ((j + 1 : Nat) : Int)) := by
  have hfront : CodePoint.ofChar '\n' ∉ line.take j := fun hmem => h.unbroken (List.mem_of_mem_take hmem)
  have hposition := position_append before (line.take j) (line.drop j ++ rest) h.begins hfront
  have hwhole : before ++ line.take j ++ (line.drop j ++ rest) = text := by
    rw [← h.whole, List.append_assoc, ← List.append_assoc (line.take j), List.take_append_drop,
      List.append_assoc]
  rw [hwhole, List.length_append, List.length_take, Nat.min_eq_left hj] at hposition
  exact hposition

end LineAt

/-- The lines of a text are its pieces between line breaks. -/
theorem lineText?_eq_getElem? (text : Text) {k : Nat} (h : k < (ofText text).lineCount) :
    (ofText text).lineText? ((k + 1 : Nat) : Int) = (splitAt (CodePoint.ofChar '\n') text)[k]? := by
  rw [lineCount_ofText, Nat.lt_succ_iff] at h
  obtain ⟨before, line, rest, hline, rfl⟩ := exists_lineAt_of_count text h
  rw [lineText?_of_lineAt hline, hline.getElem?_splitAt]

/-! ## Positions -/

/-- An offset stands at a line and a column, both counted from 1. The column behind the last
code point of a line is that of its line break, or of the end of the text. -/
structure Places (ix : LineIndex) (offset line column : Nat) : Prop where
  one_le_line : 1 ≤ line
  line_le : line ≤ ix.lineCount
  /-- The lines before are as many as the line breaks before. -/
  breaks : line - 1 = (ix.text.take offset).count (CodePoint.ofChar '\n')
  /-- The table is divided at the line: starts at or before the offset, and starts behind it. -/
  reached : ∀ s ∈ ix.starts.take line, s ≤ offset
  ahead : ∀ s ∈ ix.starts.drop line, offset < s
  start : ∃ start, ix.starts[line - 1]? = some start ∧ start + column - 1 = offset
  content : ∃ content, ix.lineText? line = some content ∧ 1 ≤ column ∧ column ≤ content.length + 1 ∧
    (column ≤ content.length → ix.text[offset]? = content[column - 1]?) ∧
    (column = content.length + 1 →
      ix.text[offset]? = some (CodePoint.ofChar '\n') ∧ line < ix.lineCount ∨
        offset = ix.text.length ∧ line = ix.lineCount)

/-- What stands at a column of a line, and behind the line. -/
theorem getElem?_of_lineAt {text before content rest : Text} (h : LineAt text before content rest) :
    (∀ j < content.length, text[before.length + j]? = content[j]?) ∧
      (text[before.length + content.length]? = some (CodePoint.ofChar '\n') ∧
          before.count (CodePoint.ofChar '\n') + 1 < (ofText text).lineCount ∨
        before.length + content.length = text.length ∧
          before.count (CodePoint.ofChar '\n') + 1 = (ofText text).lineCount) := by
  rw [lineCount_ofText, ← h.whole]
  constructor
  · intro j hj
    rw [List.append_assoc, List.getElem?_append_right (by omega), Nat.add_sub_cancel_left,
      List.getElem?_append_left hj]
  · rw [List.count_append, List.count_append, List.count_eq_zero.2 h.unbroken]
    rcases h.ends with rfl | ⟨more, rfl⟩
    · exact .inr (by simp)
    · refine .inl ⟨?_, ?_⟩
      · rw [List.getElem?_append_right (by simp)]
        simp
      · rw [List.count_cons_self]
        omega

theorem places_position {text : Text} {offset : Nat} (h : offset ≤ text.length) :
    ∃ line column : Nat, (ofText text).position offset = ((line : Int), (column : Int)) ∧
      (ofText text).Places offset line column := by
  obtain ⟨before, line, rest, hline, hle, hge⟩ := exists_lineAt_of_offset h
  obtain ⟨j, rfl⟩ := Nat.exists_eq_add_of_le hle
  have hj : j ≤ line.length := by omega
  have hfront : text.take (before.length + j) = before ++ line.take j := by
    rw [← hline.whole, List.append_assoc, List.take_length_add_append,
      List.take_append_of_le_length hj]
  have hbreaks : (text.take (before.length + j)).count (CodePoint.ofChar '\n') =
      before.count (CodePoint.ofChar '\n') := by
    rw [hfront, List.count_append,
      List.count_eq_zero.2 fun hmem => hline.unbroken (List.mem_of_mem_take hmem), Nat.add_zero]
  have hdivided := starts_eq_append h
  have hlength : (0 :: startsFrom 0 (text.take (before.length + j))).length =
      before.count (CodePoint.ofChar '\n') + 1 := by
    rw [List.length_cons, length_startsFrom, hbreaks]
  obtain ⟨hinside, hbehind⟩ := getElem?_of_lineAt hline
  refine ⟨_, _, position_of_lineAt hline hj, ?_⟩
  refine ⟨Nat.le_add_left 1 _, ?_, hbreaks.symm, ?_, ?_, ?_, ?_⟩
  · have := hline.count_before
    rw [lineCount_ofText]
    omega
  · rw [hdivided, ← hlength, List.take_left]
    intro s hs
    rcases List.mem_cons.1 hs with rfl | hs
    · exact Nat.zero_le _
    · have := (lt_of_mem_startsFrom hs).2
      rw [List.length_take, Nat.min_eq_left h] at this
      omega
  · rw [hdivided, ← hlength, List.drop_left]
    exact fun s hs => (lt_of_mem_startsFrom hs).1
  · exact ⟨before.length, start_of_lineAt hline, rfl⟩
  · refine ⟨line, lineText?_of_lineAt hline, Nat.le_add_left 1 j, Nat.succ_le_succ hj, ?_, ?_⟩
    · exact fun hcolumn => hinside j hcolumn
    · intro hcolumn
      obtain rfl : j = line.length := Nat.succ_inj.1 hcolumn
      exact hbehind

theorem Places.column_lt {ix : LineIndex} {offset offset' line column column' : Nat}
    (h : ix.Places offset line column) (h' : ix.Places offset' line column') (hlt : offset < offset') :
    column < column' := by
  obtain ⟨start, hstart, heq⟩ := h.start
  obtain ⟨start', hstart', heq'⟩ := h'.start
  cases hstart.symm.trans hstart'
  obtain ⟨_, _, _, _⟩ := h.content
  omega

theorem position_lt {text : Text} {offset offset' : Nat} (hlt : offset < offset')
    (h : offset' ≤ text.length) :
    Prod.Lex (· < ·) (· < ·) ((ofText text).position offset) ((ofText text).position offset') := by
  obtain ⟨line, column, hposition, hplaces⟩ := places_position (Nat.le_trans (Nat.le_of_lt hlt) h)
  obtain ⟨line', column', hposition', hplaces'⟩ := places_position h
  rw [hposition, hposition']
  have hle : line - 1 ≤ line' - 1 := by
    rw [hplaces.breaks, hplaces'.breaks]
    exact (List.take_sublist_take_left (Nat.le_of_lt hlt)).count_le _
  have hline := hplaces.one_le_line
  have hline' := hplaces'.one_le_line
  rcases Nat.lt_or_eq_of_le (show line ≤ line' by omega) with hlines | rfl
  · exact .left _ _ (Int.ofNat_lt.2 hlines)
  · exact .right _ (Int.ofNat_lt.2 (hplaces.column_lt hplaces' hlt))

/-- The lines of a text have no line breaks, and put together with line breaks between them
they are the text. The table of line starts is strictly increasing. The position of an offset is
the line and the column where it stands, so that line start and column give the offset back, and
positions are ordered as offsets are. -/
theorem position_exact (text : Text) :
    (∃ lines : List Text, lines.length = (ofText text).lineCount ∧
      (∀ k < (ofText text).lineCount, (ofText text).lineText? ((k + 1 : Nat) : Int) = lines[k]?) ∧
      Text.join [CodePoint.ofChar '\n'] lines = text ∧
      ∀ line ∈ lines, CodePoint.ofChar '\n' ∉ line) ∧
    (ofText text).starts.Pairwise (· < ·) ∧
    (∀ offset ≤ text.length, ∃ line column : Nat,
      (ofText text).position offset = ((line : Int), (column : Int)) ∧
        (ofText text).Places offset line column) ∧
    ∀ offset offset', offset < offset' → offset' ≤ text.length →
      Prod.Lex (· < ·) (· < ·) ((ofText text).position offset) ((ofText text).position offset') := by
  refine ⟨⟨splitAt (CodePoint.ofChar '\n') text, ?_, ?_, ?_, ?_⟩, pairwise_starts text, ?_, ?_⟩
  · rw [length_splitAt, lineCount_ofText]
  · exact fun k hk => lineText?_eq_getElem? text hk
  · exact join_splitAt _ text
  · exact fun line hline => not_mem_of_mem_splitAt hline
  · exact fun offset h => places_position h
  · exact fun offset offset' hlt h => position_lt hlt h

/-- The offset of an empty line, and the end of a text behind its last line break. -/
theorem position_exact_empty_line :
    let text := Text.of "a\n\nbc\n"
    (ofText text).position 2 = (2, 1) ∧ (ofText text).Places 2 2 1 ∧
      (ofText text).position 6 = (4, 1) ∧ (ofText text).Places 6 4 1 ∧
      Prod.Lex (· < ·) (· < ·) ((ofText text).position 2) ((ofText text).position 6) := by
  intro text
  obtain ⟨_, _, hplaces, hlt⟩ := position_exact text
  have hempty : (ofText text).position 2 = (2, 1) := by decide
  have hend : (ofText text).position 6 = (4, 1) := by decide
  obtain ⟨line, column, hposition, hline⟩ := hplaces 2 (by decide)
  obtain ⟨line', column', hposition', hline'⟩ := hplaces 6 (by decide)
  cases hposition.symm.trans hempty
  cases hposition'.symm.trans hend
  exact ⟨hempty, hline, hend, hline', hlt 2 6 (by decide) (by decide)⟩

end LineIndex

end LispXref
