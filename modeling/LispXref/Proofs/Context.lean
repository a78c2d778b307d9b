-- The lines around a span. Main statement: they are consecutive lines of the text, from as
-- many lines before the first line that the span touches as were asked for to as many behind
-- the last, as far as the text has lines.
import LispXref.Proofs.Positions
import Mathlib.Order.Bounds.Basic

namespace LispXref

/-- Results for all elements of a list, each at the place of its element. -/
theorem exists_mapM_some {α β : Type} {f : α → Option β} {as : List α}
    (h : ∀ a ∈ as, ∃ b, f a = some b) :
    ∃ bs, as.mapM f = some bs ∧ bs.length = as.length ∧
      ∀ (i : Nat) (b : β), bs[i]? = some b → ∃ a, as[i]? = some a ∧ f a = some b := by
  induction as with
  | nil => exact ⟨[], rfl, rfl, by simp⟩
  | cons a as ih =>
    obtain ⟨⟨b, hb⟩, has⟩ := List.forall_mem_cons.1 h
    obtain ⟨bs, hbs, hlength, hget⟩ := ih has
    refine ⟨b :: bs, ?_, by simp [hlength], ?_⟩
    · rw [List.mapM_cons, hb, hbs]
      rfl
    · intro i c hc
      cases i with
      | zero =>
        cases hc
        exact ⟨a, rfl, hb⟩
      | succ i => exact hget i c hc

/-! ## Lines that a span touches -/

namespace Text

/-- The number of the line that an offset stands in. -/
def lineNumber (text : Text) (offset : Nat) : Nat :=
  (text.take offset).count (CodePoint.ofChar '\n') + 1

/-- The lines that a span touches: those that hold a code point of it, and the one that it
starts in. -/
def touchedLines (text : Text) (start stop : Nat) : Set Nat :=
  { k | ∃ offset, start ≤ offset ∧ (offset < stop ∨ offset = start) ∧ text.lineNumber offset = k }

theorem lineNumber_mono (text : Text) {offset offset' : Nat} (h : offset ≤ offset') :
    text.lineNumber offset ≤ text.lineNumber offset' :=
  Nat.succ_le_succ ((List.take_sublist_take_left h).count_le _)

theorem isLeast_touchedLines (text : Text) (start stop : Nat) :
    IsLeast (text.touchedLines start stop) (text.lineNumber start) := by
  refine ⟨⟨start, Nat.le_refl start, .inr rfl, rfl⟩, ?_⟩
  rintro k ⟨offset, hle, _, rfl⟩
  exact text.lineNumber_mono hle

/-- The last code point of a span stands in the last line that the span touches. -/
theorem isGreatest_touchedLines (text : Text) (start stop : Nat) :
    IsGreatest (text.touchedLines start stop) (text.lineNumber (max start (stop - 1))) := by
  constructor
  · refine ⟨max start (stop - 1), Nat.le_max_left _ _, ?_, rfl⟩
    omega
  · rintro k ⟨offset, _, hin, rfl⟩
    exact text.lineNumber_mono (by omega)

end Text

namespace LineIndex

variable {text : Text}

theorem position_fst {offset : Nat} (h : offset ≤ text.length) :
    ((ofText text).position offset).1 = (text.lineNumber offset : Nat) := by
  obtain ⟨line, column, hposition, hplaces⟩ := places_position h
  have hbreaks : line - 1 = (text.take offset).count (CodePoint.ofChar '\n') := hplaces.breaks
  have hline := hplaces.one_le_line
  rw [hposition, Text.lineNumber]
  simp only
  omega

theorem lineNumber_le {offset : Nat} : text.lineNumber offset ≤ (ofText text).lineCount := by
  rw [lineCount_ofText]
  exact Nat.succ_le_succ ((List.take_sublist offset text).count_le _)

/-! ## Numbered lines -/

theorem exists_lineText? (text : Text) {line : Int} (hlow : 1 ≤ line)
    (hhigh : line ≤ (ofText text).lineCount) : ∃ t, (ofText text).lineText? line = some t := by
  obtain ⟨k, hk⟩ := Int.eq_ofNat_of_zero_le (show 0 ≤ line - 1 by omega)
  obtain rfl : line = ((k + 1 : Nat) : Int) := by omega
  have hlt : k < (ofText text).lineCount := by omega
  rw [lineText?_eq_getElem? text hlt]
  rw [lineCount_ofText, ← Text.length_splitAt] at hlt
  exact ⟨_, List.getElem?_eq_getElem hlt⟩

/-- All lines between two lines of a text are there. -/
theorem exists_numberedLines? (text : Text) {low high : Int} (hlow : 1 ≤ low)
    (hhigh : high ≤ (ofText text).lineCount) :
    ∃ window, (ofText text).numberedLines? low high = some window ∧
      window.length = (high - low + 1).toNat ∧
      ∀ (i : Nat) (entry : Int × Text), window[i]? = some entry →
        entry.1 = low + i ∧ (ofText text).lineText? entry.1 = some entry.2 := by
  have hlines : ∀ i ∈ List.range (high - low + 1).toNat,
      ∃ entry : Int × Text, (do return (low + i, ← (ofText text).lineText? (low + i))) = some entry := by
    intro i hi
    rw [List.mem_range] at hi
    obtain ⟨t, ht⟩ := exists_lineText? text (show 1 ≤ low + i by omega) (by omega)
    rw [ht]
    exact ⟨_, rfl⟩
  obtain ⟨window, hwindow, hlength, hget⟩ := exists_mapM_some hlines
  refine ⟨window, hwindow, by rw [hlength, List.length_range], fun i entry hentry => ?_⟩
  obtain ⟨k, hk, hnumbered⟩ := hget i entry hentry
  obtain ⟨_, rfl⟩ := List.getElem?_eq_some_iff.1 hk
  rw [List.getElem_range] at hnumbered
  obtain ⟨t, ht, hpair⟩ := Option.bind_eq_some_iff.1 hnumbered
  cases hpair
  exact ⟨rfl, ht⟩

/-- In a window of consecutive lines every number between the first and the last stands. -/
theorem exists_mem_of_consecutive {window : List (Int × Text)} {low k : Int}
    (h : ∀ (i : Nat) (entry : Int × Text), window[i]? = some entry → entry.1 = low + i)
    (hlow : low ≤ k) (hhigh : k < low + window.length) : ∃ line, (k, line) ∈ window := by
  have hin : (k - low).toNat < window.length := by omega
  have hnumber := h _ _ (List.getElem?_eq_getElem hin)
  have hk : (k, window[(k - low).toNat].2) = window[(k - low).toNat] := by
    rw [Prod.ext_iff]
    exact ⟨by omega, rfl⟩
  exact ⟨_, hk ▸ List.getElem_mem hin⟩

/-! ## The lines around a span -/

theorem context?_eq {start stop : Nat} (h : start ≤ stop) (hstop : stop ≤ text.length)
    (around : Nat) :
    (ofText text).context? start stop around =
      (ofText text).numberedLines? (max 1 ((text.lineNumber start : Int) - around))
        (min ((ofText text).lineCount : Int)
          ((text.lineNumber (max start (stop - 1)) : Int) + around)) := by
  have hmax : max (start : Int) ((stop : Int) - 1) = ((max start (stop - 1) : Nat) : Int) := by omega
  unfold context?
  rw [hmax, position_fst (Nat.le_trans h hstop), position_fst (by omega)]

/-- For every span of a text and every number of lines around it, there is a window of
consecutive lines, each with its text. It starts that many lines before the first line that the
span touches and stops that many behind the last, unless the text has not that many lines, and
it has every line that the span touches. -/
theorem context?_window (text : Text) {start stop : Nat} (h : start ≤ stop)
    (hstop : stop ≤ text.length) (around : Nat) :
    ∃ (first last : Nat) (low high : Int) (window : List (Int × Text)),
      IsLeast (text.touchedLines start stop) first ∧ IsGreatest (text.touchedLines start stop) last ∧
      low = max 1 ((first : Int) - around) ∧
      high = min ((ofText text).lineCount : Int) ((last : Int) + around) ∧
      (ofText text).context? start stop around = some window ∧
      window ≠ [] ∧ (window.length : Int) = high - low + 1 ∧
      (∀ (i : Nat) (entry : Int × Text), window[i]? = some entry →
        entry.1 = low + i ∧ (ofText text).lineText? entry.1 = some entry.2) ∧
      ∀ k ∈ text.touchedLines start stop, ∃ line, ((k : Int), line) ∈ window := by
  have hleast := text.isLeast_touchedLines start stop
  have hgreatest := text.isGreatest_touchedLines start stop
  have hfirst : 1 ≤ text.lineNumber start := Nat.le_add_left 1 _
  have hlast : text.lineNumber (max start (stop - 1)) ≤ (ofText text).lineCount := lineNumber_le
  have hle := hleast.2 hgreatest.1
  rw [context?_eq h hstop around]
  generalize text.lineNumber start = first at *
  generalize text.lineNumber (max start (stop - 1)) = last at *
  generalize hlow : max 1 ((first : Int) - around) = low
  generalize hhigh : min ((ofText text).lineCount : Int) ((last : Int) + around) = high
  obtain ⟨window, hwindow, hlength, hget⟩ := exists_numberedLines? text
    (show 1 ≤ low by omega) (show high ≤ (ofText text).lineCount by omega)
  refine ⟨first, last, low, high, window, hleast, hgreatest, hlow.symm, hhigh.symm, hwindow, ?_, ?_,
    hget, fun k hk => ?_⟩
  · rintro rfl
    rw [List.length_nil] at hlength
    omega
  · omega
  · have hbelow := hleast.2 hk
    have habove := hgreatest.2 hk
    exact exists_mem_of_consecutive (fun i entry hentry => (hget i entry hentry).1) (by omega) (by omega)

/-- A span over two lines, with a line before it and an empty one behind. -/
theorem context?_window_two_lines :
    let text := Text.of "a\n(f\n x)\n\nb"
    let window := [(1, Text.of "a"), (2, Text.of "(f"), (3, Text.of " x)"), (4, [])]
    2 ≤ 8 ∧ 8 ≤ text.length ∧ (ofText text).context? 2 8 1 = some window ∧
      ∀ k ∈ text.touchedLines 2 8, ∃ line, ((k : Int), line) ∈ window := by
  intro text window
  have hlength : 8 ≤ text.length := by decide
  have hcontext : (ofText text).context? 2 8 1 = some window := by decide
  obtain ⟨_, _, _, _, found, _, _, _, _, hfound, _, _, _, htouched⟩ :=
    context?_window text (show 2 ≤ 8 by decide) hlength 1
  cases hfound.symm.trans hcontext
  exact ⟨by decide, hlength, hcontext, htouched⟩

end LineIndex

end LispXref
