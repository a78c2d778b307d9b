-- Lines and columns. Main statement: the line of an offset is one more than the line breaks
-- before it, and its column one more than what stands between the last of them and it.
import LispXref.Lines

namespace LispXref

/-- The line and column at which a text ends, both counted from 1. -/
def Text.endPlace (t : Text) : Int × Int :=
  (((t.count (CodePoint.ofChar '\n') + 1 : Nat) : Int),
    ((t.reverse.takeWhile (· ≠ CodePoint.ofChar '\n')).length : Int) + 1)

namespace LineIndex

theorem startsFrom_append (pos : Nat) (u v : Text) :
    startsFrom pos (u ++ v) = startsFrom pos u ++ startsFrom (pos + u.length) v := by
  induction u generalizing pos with
  | nil => rfl
  | cons c u ih =>
    have hlen : pos + (c :: u).length = pos + 1 + u.length := by
      rw [List.length_cons]
      omega
    rw [List.cons_append, startsFrom, startsFrom, ih, hlen]
    split <;> rfl

theorem lt_of_mem_startsFrom {pos : Nat} {t : Text} {s : Nat} (h : s ∈ startsFrom pos t) :
    pos < s ∧ s ≤ pos + t.length := by
  induction t generalizing pos with
  | nil => cases h
  | cons c t ih =>
    rw [List.length_cons]
    unfold startsFrom at h
    split at h
    · rcases List.mem_cons.1 h with rfl | h
      · omega
      · have := ih h
        omega
    · have := ih h
      omega

theorem length_startsFrom (pos : Nat) (t : Text) :
    (startsFrom pos t).length = t.count (CodePoint.ofChar '\n') := by
  induction t generalizing pos with
  | nil => rfl
  | cons c t ih =>
    unfold startsFrom
    split
    · rename_i hc
      rw [hc, List.length_cons, ih, List.count_cons_self]
    · rename_i hc
      rw [ih, List.count_cons_of_ne hc]

/-- Lines start at the front and right behind line breaks. -/
theorem getLast_starts (before : Text)
    (h : before = [] ∨ before.getLast? = some (CodePoint.ofChar '\n')) :
    (0 :: startsFrom 0 before)[before.count (CodePoint.ofChar '\n')]? = some before.length := by
  rcases h with rfl | h
  · rfl
  · obtain ⟨u, rfl⟩ := List.getLast?_eq_some_iff.1 h
    rw [startsFrom_append, List.count_append, List.length_append]
    have hcount : (0 :: startsFrom 0 u).length = u.count (CodePoint.ofChar '\n') + 1 := by
      rw [List.length_cons, length_startsFrom]
    rw [← List.cons_append, List.getElem?_append_right (by simp [hcount]), hcount]
    simp [startsFrom]

/-- What stands behind a text does not move the lines that begin up to its end. -/
theorem getElem?_starts_append {before : Text}
    (h : before = [] ∨ before.getLast? = some (CodePoint.ofChar '\n')) (rest : Text) :
    (ofText (before ++ rest)).starts[before.count (CodePoint.ofChar '\n')]? = some before.length := by
  have hin : before.count (CodePoint.ofChar '\n') < (0 :: startsFrom 0 before).length := by
    rw [List.length_cons, length_startsFrom]
    exact Nat.lt_succ_self _
  rw [ofText, startsFrom_append, ← List.cons_append, List.getElem?_append_left hin,
    getLast_starts before h]

/-- The lines that start up to the end of a text are those that start in it. -/
theorem countP_starts (u v : Text) :
    (ofText (u ++ v)).starts.countP (fun (s : Nat) => decide ((s : Int) ≤ (u.length : Nat))) =
      u.count (CodePoint.ofChar '\n') + 1 := by
  have hstarts : (ofText (u ++ v)).starts = (0 :: startsFrom 0 u) ++ startsFrom u.length v := by
    rw [ofText, startsFrom_append, Nat.zero_add, List.cons_append]
  have hfirst : (0 :: startsFrom 0 u).countP (fun (s : Nat) => decide ((s : Int) ≤ (u.length : Nat))) =
      u.count (CodePoint.ofChar '\n') + 1 := by
    rw [List.countP_eq_length.2, List.length_cons, length_startsFrom]
    intro s hs
    rw [decide_eq_true_eq]
    rcases List.mem_cons.1 hs with rfl | hs
    · omega
    · have := lt_of_mem_startsFrom hs
      omega
  have hlater : (startsFrom u.length v).countP
      (fun (s : Nat) => decide ((s : Int) ≤ (u.length : Nat))) = 0 := by
    rw [List.countP_eq_zero]
    intro s hs
    have := lt_of_mem_startsFrom hs
    rw [decide_eq_true_eq]
    omega
  rw [hstarts, List.countP_append, hfirst, hlater]

/-- A line that begins behind a text has its code points in its columns. -/
theorem position_append (before line rest : Text)
    (h : before = [] ∨ before.getLast? = some (CodePoint.ofChar '\n'))
    (hline : CodePoint.ofChar '\n' ∉ line) :
    (ofText (before ++ line ++ rest)).position (before ++ line).length =
      (((before.count (CodePoint.ofChar '\n') + 1 : Nat) : Int), (line.length : Int) + 1) := by
  have hlines := countP_starts (before ++ line) rest
  rw [List.count_append, List.count_eq_zero.2 hline, Nat.add_zero] at hlines
  have hget : signedGet? (ofText (before ++ line ++ rest)).starts
      (((before.count (CodePoint.ofChar '\n') + 1 : Nat) : Int) - 1) = some before.length := by
    have hindex : ((before.count (CodePoint.ofChar '\n') + 1 : Nat) : Int) - 1 =
        (before.count (CodePoint.ofChar '\n') : Nat) := by omega
    rw [hindex, signedGet?, if_pos (Int.natCast_nonneg _), Int.toNat_natCast, List.append_assoc]
    exact getElem?_starts_append h (line ++ rest)
  unfold position
  simp only [hlines, hget, Option.getD_some, Prod.mk.injEq, true_and]
  rw [List.length_append]
  omega

/-- The position of an offset follows from the text before it. -/
theorem position_ofText (text : Text) {offset : Nat} (h : offset ≤ text.length) :
    (ofText text).position offset = Text.endPlace (text.take offset) := by
  let back := (text.take offset).reverse
  let line := (back.takeWhile (· ≠ CodePoint.ofChar '\n')).reverse
  let before := (back.dropWhile (· ≠ CodePoint.ofChar '\n')).reverse
  have hsplit : before ++ line = text.take offset := by
    rw [← List.reverse_append, List.takeWhile_append_dropWhile, List.reverse_reverse]
  have hwhole : before ++ line ++ text.drop offset = text := by
    rw [hsplit, List.take_append_drop]
  have hlength : (before ++ line).length = offset := by
    rw [hsplit, List.length_take, Nat.min_eq_left h]
  have hend : before = [] ∨ before.getLast? = some (CodePoint.ofChar '\n') := by
    rw [List.getLast?_reverse]
    cases hdrop : back.dropWhile (· ≠ CodePoint.ofChar '\n') with
    | nil => exact .inl (congrArg List.reverse hdrop)
    | cons c more =>
      have hc := List.head?_dropWhile_not (fun c => decide (c ≠ CodePoint.ofChar '\n')) back
      rw [hdrop] at hc
      exact .inr (congrArg some (by simpa using hc))
  have hline : CodePoint.ofChar '\n' ∉ line := by
    intro hmem
    have hall := List.all_eq_true.1 List.all_takeWhile _ (List.mem_reverse.1 hmem)
    simp at hall
  have hcount : (text.take offset).count (CodePoint.ofChar '\n') =
      before.count (CodePoint.ofChar '\n') := by
    rw [← hsplit, List.count_append, List.count_eq_zero.2 hline, Nat.add_zero]
  have hposition := position_append before line (text.drop offset) hend hline
  rw [hwhole, hlength] at hposition
  rw [hposition, Text.endPlace, hcount, List.length_reverse]

end LineIndex

end LispXref
