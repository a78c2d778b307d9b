-- Blanks and comments across a seam. A comment ends with its line and a block to
-- skip after its count, so what is skipped before a lexeme is skipped before any
-- other text too.
import LispXref.Proofs.Seam.Basic

namespace LispXref.Reading

/-! ## Lines and blocks -/

theorem val_of_isDigit {c : CodePoint} (h : c.isDigit = true) :
    (0x30 ≤ c.val ∧ c.val < 0x3A) ∨ 0xB2 ≤ c.val := by
  have hz : ∀ z ∈ scriptZeros, z = 0x30 ∨ 0x660 ≤ z := by decide
  have hr : ∀ r ∈ specialDigitRanges, 0xB2 ≤ r.1 := by decide
  unfold CodePoint.isDigit CodePoint.decimalValue? inRanges at h
  rw [Bool.or_eq_true, Option.isSome_map, List.find?_isSome, List.any_eq_true] at h
  rcases h with ⟨z, hm, hc⟩ | ⟨r, hm, hc⟩
  · have := hz z hm
    rw [decide_eq_true_eq] at hc
    omega
  · have := hr r hm
    rw [decide_eq_true_eq] at hc
    omega

theorem goesOn_of_isDigit {c : CodePoint} (h : c.isDigit = true) :
    (isBlank c || isDelimiter c) = false := by
  have hv := val_of_isDigit h
  simp only [isDelimiter_eq_mem, isBlank, Bool.or_eq_false_iff, decide_eq_false_iff_not,
    List.mem_cons, List.not_mem_nil, or_false]
  omega

theorem afterLine_append {pos : Nat} {t : Text} (h : (afterLine pos t).rest ≠ []) :
    ∃ line, t = line ++ (afterLine pos t).rest ∧ (afterLine pos t).pos = pos + line.length ∧
      ∀ pos' rest', afterLine pos' (line ++ rest') = ⟨pos' + line.length, rest'⟩ := by
  induction t generalizing pos with
  | nil => exact absurd rfl h
  | cons c t ih =>
    unfold afterLine at h ⊢
    by_cases hc : c = '\n'
    · simp only [hc, if_true] at h ⊢
      exact ⟨['\n'], rfl, rfl, fun pos' rest' => by simp⟩
    · simp only [hc, if_false] at h ⊢
      obtain ⟨line, ht, hp, hl⟩ := ih h
      refine ⟨c :: line, by rw [List.cons_append, ← ht], by rw [hp, List.length_cons]; omega, ?_⟩
      intro pos' rest'
      rw [List.cons_append]
      simp only [hc, if_false, hl, List.length_cons, Nat.add_assoc, Nat.add_comm 1]

/-- A block that ends inside the text is the same block before any other text. -/
theorem skipBlock_append {mark : Nat} {t : Text} {next : Cursor}
    (h : skipBlock mark t = .done () next) (hn : next.rest ≠ []) :
    ∃ block, t = block ++ next.rest ∧ next.pos = mark + 2 + block.length ∧
      ∀ mark' rest', Seam next.rest rest' →
        skipBlock mark' (block ++ rest') = .done () ⟨mark' + 2 + block.length, rest'⟩ := by
  have ht := append_drop_takeWhile CodePoint.isDigit t
  unfold skipBlock at h
  dsimp only at h
  generalize hd : t.takeWhile CodePoint.isDigit = digits at h ht
  generalize ha : t.drop digits.length = after at h ht
  split at h
  · cases h
  · rename_i hne
    split at h
    · cases h
      exact absurd rfl hn
    · rename_i h00
      split at h
      · cases h
      · rename_i n hparse
        cases h
        -- Something follows the block, so it is as long as its digits say.
        have hlt : n.toNat < after.length := by
          rcases Nat.lt_or_ge n.toNat after.length with hlt | hge
          · exact hlt
          · exact absurd (List.drop_eq_nil_of_le hge) hn
        have hlen : (after.take n.toNat).length = n.toNat := by
          rw [List.length_take, Nat.min_eq_left (Nat.le_of_lt hlt)]
        refine ⟨digits ++ after.take n.toNat, ?_, ?_, fun mark' rest' hs => ?_⟩
        · rw [List.append_assoc, List.take_append_drop]
          exact ht
        · simp only [List.length_append, hlen, Nat.min_eq_left (Nat.le_of_lt hlt)]
          omega
        · have hrun :
              (digits ++ (after.take n.toNat ++ rest')).takeWhile CodePoint.isDigit = digits := by
            subst hd
            refine takeWhile_append_of_seam (fun _ => goesOn_of_isDigit) ?_
            have hsplit := hs.append (after.take n.toNat)
            rw [List.take_append_drop] at hsplit
            rw [ha]
            exact hsplit
          unfold skipBlock
          rw [List.append_assoc]
          simp only [hrun, List.drop_left, hparse, hne, h00, if_false, List.length_append, hlen,
            List.drop_left' hlen, Nat.min_eq_left (Nat.le_add_right n.toNat _), Nat.add_assoc]
          rfl

/-! ## Skipping -/

theorem skipBlanks_blank (pos : Nat) {c : CodePoint} (rest : Text) (hb : isBlank c = true) :
    skipBlanks ⟨pos, c :: rest⟩ = skipBlanks ⟨pos + 1, rest⟩ := by
  rw [skipBlanks.eq_def]
  simp only [hb, if_true]

theorem skipBlanks_comment (pos : Nat) (rest : Text) :
    skipBlanks ⟨pos, ';' :: rest⟩ = skipBlanks (afterLine (pos + 1) rest) := by
  rw [skipBlanks.eq_def]
  simp only [if_neg (by decide : ¬isBlank (CodePoint.ofChar ';') = true), if_true]

theorem skipBlanks_line (pos : Nat) (rest : Text) :
    skipBlanks ⟨pos, '#' :: '!' :: rest⟩ = skipBlanks (afterLine (pos + 2) rest) := by
  rw [skipBlanks.eq_def]
  simp only [if_neg (by decide : ¬isBlank (CodePoint.ofChar '#') = true),
    if_neg (by decide : ¬CodePoint.ofChar '#' = CodePoint.ofChar ';'), if_true]

theorem skipBlanks_block (pos : Nat) (rest : Text) :
    skipBlanks ⟨pos, '#' :: '@' :: rest⟩ = (skipBlock pos rest).bind fun _ next => skipBlanks next := by
  rw [skipBlanks.eq_def]
  simp only [if_neg (by decide : ¬isBlank (CodePoint.ofChar '#') = true),
    if_neg (by decide : ¬CodePoint.ofChar '#' = CodePoint.ofChar ';'),
    if_neg (by decide : ¬CodePoint.ofChar '@' = CodePoint.ofChar '!'), if_true]
  split
  · rename_i he
    rw [Outcome.bind_of_done he]
  · rename_i he
    rw [Outcome.bind_of_truncated he]
  · rename_i he
    rw [Outcome.bind_of_failed he]

/-- A number sign without the mark of a comment is not skipped. -/
theorem skipBlanks_sign (pos : Nat) {d : CodePoint} (rest : Text) (hline : d ≠ '!')
    (hblock : d ≠ '@') :
    skipBlanks ⟨pos, '#' :: d :: rest⟩ = .done () ⟨pos, '#' :: d :: rest⟩ := by
  rw [skipBlanks.eq_def]
  simp only [if_neg (by decide : ¬isBlank (CodePoint.ofChar '#') = true),
    if_neg (by decide : ¬CodePoint.ofChar '#' = CodePoint.ofChar ';'), if_true, if_neg hline,
    if_neg hblock]

/-- What is skipped between two places is skipped before any other text too, and
skipping then goes on from there. -/
def Skips (cur next : Cursor) : Prop :=
  ∃ taken, cur.rest = taken ++ next.rest ∧ next.pos = cur.pos + taken.length ∧
    ∀ pos' rest', Seam next.rest rest' →
      skipBlanks ⟨pos', taken ++ rest'⟩ = skipBlanks ⟨pos' + taken.length, rest'⟩

theorem Skips.refl (cur : Cursor) : Skips cur cur := ⟨[], rfl, rfl, fun _ _ _ => rfl⟩

theorem Skips.trans {a b c : Cursor} : Skips a b → Skips b c → Skips a c := by
  rintro ⟨taken, ht, hp, hl⟩ ⟨more, hm, hq, hl'⟩
  refine ⟨taken ++ more, by rw [ht, hm, List.append_assoc],
    by rw [hq, hp, List.length_append]; omega, ?_⟩
  intro pos' rest' hs
  rw [List.append_assoc, hl pos' (more ++ rest') (hm ▸ hs.append more), hl' _ _ hs,
    List.length_append, Nat.add_assoc]

theorem Skips.blank {cur : Cursor} {c : CodePoint} {rest : Text} (hr : cur.rest = c :: rest)
    (hb : isBlank c = true) : Skips cur ⟨cur.pos + 1, rest⟩ :=
  ⟨[c], hr, rfl, fun pos' rest' _ => skipBlanks_blank pos' rest' hb⟩

theorem Skips.comment {cur : Cursor} {rest : Text} (hr : cur.rest = CodePoint.ofChar ';' :: rest)
    (hn : (afterLine (cur.pos + 1) rest).rest ≠ []) : Skips cur (afterLine (cur.pos + 1) rest) := by
  obtain ⟨line, ht, hp, hl⟩ := afterLine_append hn
  refine ⟨';' :: line, by rw [hr, List.cons_append, ← ht], by rw [hp, List.length_cons]; omega, ?_⟩
  intro pos' rest' _
  rw [List.cons_append, skipBlanks_comment, hl, List.length_cons, Nat.add_assoc, Nat.add_comm 1]

theorem Skips.line {cur : Cursor} {rest : Text}
    (hr : cur.rest = CodePoint.ofChar '#' :: CodePoint.ofChar '!' :: rest)
    (hn : (afterLine (cur.pos + 2) rest).rest ≠ []) : Skips cur (afterLine (cur.pos + 2) rest) := by
  obtain ⟨line, ht, hp, hl⟩ := afterLine_append hn
  refine ⟨'#' :: '!' :: line, by rw [hr, List.cons_append, List.cons_append, ← ht],
    by rw [hp, List.length_cons, List.length_cons]; omega, ?_⟩
  intro pos' rest' _
  rw [List.cons_append, List.cons_append, skipBlanks_line, hl, List.length_cons, List.length_cons,
    Nat.add_assoc, Nat.add_comm 2]

theorem Skips.block {cur next : Cursor} {rest : Text}
    (hr : cur.rest = CodePoint.ofChar '#' :: CodePoint.ofChar '@' :: rest)
    (hb : skipBlock cur.pos rest = .done () next) (hn : next.rest ≠ []) : Skips cur next := by
  obtain ⟨block, ht, hp, hl⟩ := skipBlock_append hb hn
  refine ⟨'#' :: '@' :: block, by rw [hr, List.cons_append, List.cons_append, ← ht],
    by rw [hp, List.length_cons, List.length_cons]; omega, ?_⟩
  intro pos' rest' hs
  rw [List.cons_append, List.cons_append, skipBlanks_block, Outcome.bind_of_done (hl pos' rest' hs),
    List.length_cons, List.length_cons, Nat.add_assoc, Nat.add_comm 2]

theorem ne_nil_of_reaches {a b : Cursor} (h : a.Reaches b) (hb : b.rest ≠ []) : a.rest ≠ [] := by
  obtain ⟨taken, ht, _⟩ := h
  rw [ht]
  exact List.append_ne_nil_of_right_ne_nil taken hb

/-- Blanks and comments before something else are the same before any other text. -/
theorem skips_of_skipBlanks {cur next : Cursor} (h : skipBlanks cur = .done () next)
    (hn : next.rest ≠ []) : Skips cur next := by
  have inside : ∀ {mid : Cursor}, skipBlanks mid = .done () next → mid.rest ≠ [] :=
    fun hm => ne_nil_of_reaches (skipBlanks_from _ _ _ hm) hn
  fun_induction skipBlanks cur with
  | case1 cur hr =>
    cases h
    exact absurd hr hn
  | case2 cur c rest hr hb ih => exact (Skips.blank hr hb).trans (ih h)
  | case3 cur rest hr _ ih => exact (Skips.comment hr (inside h)).trans (ih h)
  | case5 cur rest _ _ _ hr ih => exact (Skips.line hr (inside h)).trans (ih h)
  | case6 cur rest mid hb _ _ _ _ hr ih => exact (Skips.block hr hb (inside h)).trans (ih h)
  | case4 | case9 | case10 =>
    cases h
    exact .refl _
  | case7 => cases h
  | case8 => cases h

end LispXref.Reading
