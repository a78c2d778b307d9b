-- Texts taken apart at a separator. Main statement: the pieces have no separator in them,
-- they are one more than the separators, and put together again they are the text. Texts
-- without separators are the pieces of what they are joined to.
import LispXref.Text.Space

namespace LispXref.Text

/-! ## Code points of pieces -/

/-- What stands in joined texts stands in the separator or in one of the texts. -/
theorem mem_join {separator : Text} {ts : List Text} {c : CodePoint} (h : c ∈ join separator ts) :
    c ∈ separator ∨ ∃ t ∈ ts, c ∈ t := by
  fun_induction join separator ts with
  | case1 => cases h
  | case2 t => exact .inr ⟨t, List.mem_cons_self, h⟩
  | case3 t ts _ ih =>
    rw [List.mem_append, List.mem_append] at h
    rcases h with (h | h) | h
    · exact .inr ⟨t, List.mem_cons_self, h⟩
    · exact .inl h
    · rcases ih h with hs | ⟨u, hu, hc⟩
      · exact .inl hs
      · exact .inr ⟨u, List.mem_cons_of_mem _ hu, hc⟩

theorem subset_of_mem_words {t word : Text} (h : word ∈ words t) : word ⊆ t := by
  induction t generalizing word with
  | nil => cases h
  | cons c t ih =>
    have hone : [c] ⊆ c :: t := List.cons_subset_cons c (List.nil_subset t)
    have hrest : word ∈ words t → word ⊆ c :: t := fun hword => List.subset_cons_of_subset c (ih hword)
    rw [words.eq_def] at h
    dsimp only at h
    split at h
    · exact hrest h
    · split at h
      · exact List.mem_singleton.1 h ▸ hone
      · split at h
        · rcases List.mem_cons.1 h with rfl | h
          · exact hone
          · exact hrest h
        · split at h
          · exact List.mem_singleton.1 h ▸ hone
          · rename_i first more hwords
            rw [hwords] at ih hrest
            rcases List.mem_cons.1 h with rfl | h
            · exact List.cons_subset_cons c (ih List.mem_cons_self)
            · exact hrest (List.mem_cons_of_mem _ h)

/-! ## Pieces between separators -/

theorem exists_splitAt (separator : CodePoint) (t : Text) :
    ∃ first rest, splitAt separator t = first :: rest := by
  cases t with
  | nil => exact ⟨_, _, rfl⟩
  | cons c t =>
    unfold splitAt
    split
    · exact ⟨_, _, rfl⟩
    · split <;> exact ⟨_, _, rfl⟩

theorem splitAt_cons_of_ne {separator c : CodePoint} (hc : c ≠ separator) {t first : Text}
    {rest : List Text} (h : splitAt separator t = first :: rest) :
    splitAt separator (c :: t) = (c :: first) :: rest := by
  rw [splitAt, if_neg hc, h]

theorem not_mem_of_mem_splitAt {separator : CodePoint} {t part : Text}
    (h : part ∈ splitAt separator t) : separator ∉ part := by
  induction t generalizing part with
  | nil =>
    rw [List.mem_singleton.1 h]
    exact List.not_mem_nil
  | cons c t ih =>
    by_cases hc : c = separator
    · rw [splitAt, if_pos hc] at h
      rcases List.mem_cons.1 h with rfl | h
      · exact List.not_mem_nil
      · exact ih h
    · obtain ⟨first, rest, hsplit⟩ := exists_splitAt separator t
      rw [splitAt_cons_of_ne hc hsplit] at h
      rw [hsplit] at ih
      rcases List.mem_cons.1 h with rfl | h
      · rw [List.mem_cons, not_or]
        exact ⟨Ne.symm hc, ih List.mem_cons_self⟩
      · exact ih (List.mem_cons_of_mem _ h)

/-- Pieces with the separator put back between them are the text. -/
theorem join_splitAt (separator : CodePoint) (t : Text) :
    join [separator] (splitAt separator t) = t := by
  induction t with
  | nil => rfl
  | cons c t ih =>
    obtain ⟨first, rest, hsplit⟩ := exists_splitAt separator t
    by_cases hc : c = separator
    · rw [splitAt, if_pos hc, hsplit, join, ← hsplit, ih, hc]
      · rfl
      · simp
    · rw [splitAt_cons_of_ne hc hsplit]
      rw [hsplit] at ih
      cases rest with
      | nil => exact congrArg (c :: ·) ih
      | cons next rest => exact congrArg (c :: ·) ih

theorem length_splitAt (separator : CodePoint) (t : Text) :
    (splitAt separator t).length = t.count separator + 1 := by
  induction t with
  | nil => rfl
  | cons c t ih =>
    by_cases hc : c = separator
    · rw [splitAt, if_pos hc, List.length_cons, ih, hc, List.count_cons_self]
    · obtain ⟨first, rest, hsplit⟩ := exists_splitAt separator t
      rw [hsplit] at ih
      rw [splitAt_cons_of_ne hc hsplit, List.count_cons_of_ne hc, ← ih]
      rfl

/-- A separator divides the pieces before it from those behind it. -/
theorem splitAt_append_cons (separator : CodePoint) (u v : Text) :
    splitAt separator (u ++ separator :: v) = splitAt separator u ++ splitAt separator v := by
  induction u with
  | nil =>
    rw [List.nil_append, splitAt.eq_2, if_pos rfl]
    rfl
  | cons c u ih =>
    obtain ⟨first, rest, hsplit⟩ := exists_splitAt separator u
    by_cases hc : c = separator
    · rw [List.cons_append, splitAt, if_pos hc, ih, splitAt, if_pos hc, List.cons_append]
    · rw [hsplit] at ih
      rw [List.cons_append, splitAt_cons_of_ne hc ih, splitAt_cons_of_ne hc hsplit]
      rfl

/-- A text without the separator is one piece. -/
theorem splitAt_of_not_mem {separator : CodePoint} {t : Text} (h : separator ∉ t) :
    splitAt separator t = [t] := by
  have hlength := length_splitAt separator t
  rw [List.count_eq_zero.2 h] at hlength
  obtain ⟨part, hpart⟩ := List.length_eq_one_iff.1 hlength
  have hjoin := join_splitAt separator t
  rw [hpart] at hjoin
  rw [hpart, ← hjoin]
  rfl

/-- What stands before the first separator is the first piece. -/
theorem splitAt_append_of_not_mem {separator : CodePoint} {t : Text} (h : separator ∉ t)
    (rest : Text) : splitAt separator (t ++ separator :: rest) = t :: splitAt separator rest := by
  rw [splitAt_append_cons, splitAt_of_not_mem h]
  rfl

theorem splitAt_join {separator : CodePoint} {parts : List Text} (hne : parts ≠ [])
    (h : ∀ part ∈ parts, separator ∉ part) : splitAt separator (join [separator] parts) = parts := by
  induction parts with
  | nil => exact absurd rfl hne
  | cons part parts ih =>
    obtain ⟨hpart, hparts⟩ := List.forall_mem_cons.1 h
    cases parts with
    | nil => exact splitAt_of_not_mem hpart
    | cons next parts =>
      have hjoin : join [separator] (part :: next :: parts) =
          part ++ separator :: join [separator] (next :: parts) := by
        rw [join]
        · rw [List.append_assoc]
          rfl
        · exact List.cons_ne_nil next parts
      rw [hjoin, splitAt_append_of_not_mem hpart, ih (List.cons_ne_nil _ _) hparts]

end LispXref.Text
