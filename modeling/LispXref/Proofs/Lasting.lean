-- Failures that last: where a text cannot be read, more text does not mend it. Main
-- statement: characters, strings and bool-vectors fail for good, however the text goes on.
import LispXref.Proofs.Seam.Lexeme

namespace LispXref.Reading

/-! ## Texts that go on -/

/-- The same place in a text that goes on. -/
def Cursor.extend (more : Text) (c : Cursor) : Cursor := ⟨c.pos, c.rest ++ more⟩

/-- Reading ended in a fault. -/
def Outcome.Fails {α : Type} (o : Outcome α) : Prop := ∃ fault stop, o = .failed fault stop

namespace Outcome.Fails

variable {α β : Type} {o : Outcome α}

theorem failed (fault : Fault) (stop : Nat) : (Outcome.failed fault stop : Outcome α).Fails :=
  ⟨fault, stop, rfl⟩

theorem map (h : o.Fails) (m : α → β) : (o.map m).Fails := by
  obtain ⟨fault, stop, rfl⟩ := h
  exact .failed fault stop

theorem of_map {m : α → β} (h : (o.map m).Fails) : o.Fails := by
  obtain ⟨fault, stop, h⟩ := h
  cases o with
  | done v next => cases h
  | truncated stop => cases h
  | failed fault stop => exact .failed fault stop

theorem bind (h : o.Fails) (f : α → Cursor → Outcome β) : (o.bind f).Fails := by
  obtain ⟨fault, stop, rfl⟩ := h
  exact .failed fault stop

/-- A failure comes from the first step, or from the second after a value. -/
theorem of_bind {f : α → Cursor → Outcome β} (h : (o.bind f).Fails) :
    o.Fails ∨ ∃ v next, o = .done v next ∧ (f v next).Fails := by
  cases o with
  | done v next => exact .inr ⟨v, next, rfl, h⟩
  | truncated stop =>
    obtain ⟨_, _, h⟩ := h
    cases h
  | failed fault stop => exact .inl (.failed fault stop)

theorem not_done (v : α) (next : Cursor) : ¬(Outcome.done v next).Fails := by
  rintro ⟨_, _, ⟨⟩⟩

theorem not_truncated (stop : Nat) : ¬(Outcome.truncated stop : Outcome α).Fails := by
  rintro ⟨_, _, ⟨⟩⟩

end Outcome.Fails

theorem Seam.extend {rest : Text} (h : rest ≠ []) (more : Text) : Seam rest (rest ++ more) := by
  cases rest with
  | nil => exact absurd rfl h
  | cons c rest => exact .inl rfl

/-- What was read before the end of a text is read when the text goes on. -/
theorem Local.extend {α : Type} {k : Nat} {f : Nat → Text → Outcome α} {t : Text} (h : Local k f t)
    {start : Nat} {v : α} {next : Cursor} (hf : f start t = .done v next) (hne : next.rest ≠ [])
    (more : Text) : f start (t ++ more) = .done v (next.extend more) := by
  obtain ⟨taken, ht, hp, hl⟩ := h start v next hf
  rw [ht, List.append_assoc, hl start _ (.extend hne more), Cursor.extend, hp]

/-- A reader that fails on a text fails on it however it goes on. -/
def Lasting {α : Type} (f : Nat → Text → Outcome α) (t : Text) : Prop :=
  ∀ start, (f start t).Fails → ∀ more, (f start (t ++ more)).Fails

namespace Lasting

variable {α β : Type} {f g : Nat → Text → Outcome α} {t : Text}

theorem never (h : ∀ start, ¬(f start t).Fails) : Lasting f t :=
  fun start hf => absurd hf (h start)

/-- A reader that fails whatever the text is. -/
theorem always (h : ∀ start rest, (f start rest).Fails) : Lasting f t :=
  fun start _ more => h start (t ++ more)

theorem congr (h : Lasting g t) (hfg : ∀ start rest, f start rest = g start rest) :
    Lasting f t := by
  have : f = g := funext fun start => funext fun rest => hfg start rest
  exact this ▸ h

theorem later (h : Lasting f t) (k : Nat) : Lasting (fun start rest => f (start + k) rest) t :=
  fun start hf more => h (start + k) hf more

theorem cons {c : CodePoint} (h : Lasting (fun start rest => f start (c :: rest)) t) :
    Lasting f (c :: t) :=
  fun start hf more => h start hf more

theorem append (run : Text) (h : Lasting (fun start rest => f start (run ++ rest)) t) :
    Lasting f (run ++ t) := by
  intro start hf more
  rw [List.append_assoc]
  exact h start hf more

theorem map (h : Lasting f t) (m : α → β) : Lasting (fun start rest => (f start rest).map m) t :=
  fun start hf more => (h start hf.of_map more).map m

theorem ite {p : Prop} [Decidable p] (hf : p → Lasting f t) (hg : ¬p → Lasting g t) :
    Lasting (fun start rest => if p then f start rest else g start rest) t := by
  by_cases hp : p
  · exact (hf hp).congr fun _ _ => if_pos hp
  · exact (hg hp).congr fun _ _ => if_neg hp

/-- Going on after a value: at the end of the text nothing more can fail. -/
theorem bind {k : Nat} {m : Nat → α → Cursor → Outcome β} (hl : Local k f t) (h : Lasting f t)
    (hend : ∀ start v pos, ¬(m start v ⟨pos, []⟩).Fails)
    (hm : ∀ start v next, f start t = .done v next → (m start v next).Fails →
      ∀ more, (m start v (next.extend more)).Fails) :
    Lasting (fun start rest => (f start rest).bind (m start)) t := by
  intro start hf more
  rcases hf.of_bind with hf | ⟨v, next, hv, hf⟩
  · exact (h start hf more).bind _
  · have hne : next.rest ≠ [] := by
      intro hr
      obtain ⟨pos, rest⟩ := next
      cases hr
      exact hend start v pos hf
    dsimp only
    rw [Outcome.bind_of_done (hl.extend hv hne more)]
    exact hm start v next hv hf more

end Lasting

/-! ## Characters and strings -/

theorem readHex_lasting (k : Nat) (t : Text) :
    Lasting (fun start rest => readHex start (start + k) rest) t := by
  intro start hf more
  unfold readHex at hf ⊢
  simp only [codeDigits_length] at hf ⊢
  cases t with
  | nil => exact absurd hf (Outcome.Fails.not_truncated _)
  | cons c t =>
    by_cases hc : c.isDigitOf 16 = true
    · rw [List.takeWhile_cons_of_pos hc] at hf
      exact absurd hf (Outcome.Fails.not_done _ _)
    · rw [List.cons_append, List.takeWhile_cons_of_neg hc]
      exact .failed _ _

theorem readExactHex_lasting (k count : Nat) (t : Text) :
    Lasting (fun start rest => readExactHex start (start + k) count rest) t := by
  intro start hf more
  unfold readExactHex at hf ⊢
  dsimp only at hf ⊢
  split at hf
  · exact absurd hf (Outcome.Fails.not_done _ _)
  · rename_i hcount
    split at hf
    · exact absurd hf (Outcome.Fails.not_truncated _)
    · rename_i hlen
      have hne : t.drop (codeDigits 16 count t).length ≠ [] := by
        intro hnil
        have := codeDigits_length_le 16 count t
        have := List.drop_eq_nil_iff.1 hnil
        omega
      have hdigits : codeDigits 16 count (t ++ more) = codeDigits 16 count t := by
        have hagain := codeDigits_append (.extend hne more)
        rw [← List.append_assoc, ← codeDigits_append_drop] at hagain
        exact hagain
      have hle := codeDigits_length_le 16 count t
      rw [hdigits, if_neg hcount, if_neg (by rw [List.length_append]; omega)]
      exact .failed _ _

variable {known : CharacterNames}

theorem readNamed_lasting (t : Text) : Lasting readNamed t := by
  cases hd : t.drop (t.takeWhile (· ≠ CodePoint.ofChar '\x7d')).length with
  | nil =>
    refine .never fun start hf => ?_
    simp only [readNamed, hd] at hf
    exact Outcome.Fails.not_truncated _ hf
  | cons c rest =>
    obtain ⟨run, rfl, hr, hc⟩ := exists_run hd
    intro start hf more
    have hfails : ∀ rest : Text, (readNamed start (run ++ c :: rest)).Fails ↔
        ∃ fault, namedCode start run = .error fault := by
      intro rest
      have hdrop : (run ++ c :: rest).drop run.length = c :: rest := List.drop_left
      rw [readNamed.eq_def, takeWhile_append_cons hr hc]
      simp only [hdrop]
      cases namedCode start run with
      | ok code =>
        constructor
        · intro hf
          exact absurd hf (Outcome.Fails.not_done _ _)
        · rintro ⟨_, ⟨⟩⟩
      | error fault => exact ⟨fun _ => ⟨fault, rfl⟩, fun _ => .failed _ _⟩
    rw [List.append_assoc, List.cons_append]
    rw [hfails] at hf ⊢
    exact hf

theorem readPlainEscape_lasting (c : CodePoint) (t : Text) :
    Lasting (fun start rest => readPlainEscape start c rest) t := by
  unfold readPlainEscape
  refine .ite (fun _ => readHex_lasting 2 t) fun _ =>
    .ite (fun _ => .never fun _ => Outcome.Fails.not_done _ _) fun _ =>
    .ite (fun _ => readExactHex_lasting 2 4 t) fun _ =>
    .ite (fun _ => readExactHex_lasting 2 8 t) fun _ => ?_
  by_cases hn : c = 'N'
  · subst hn
    cases t with
    | nil => exact .never fun _ => Outcome.Fails.not_done _ _
    | cons b t =>
      by_cases hb : b = '\x7b'
      · subst hb
        exact .cons ((readNamed_lasting t).congr fun _ _ => if_pos ⟨rfl, rfl⟩)
      · refine .cons (.never fun start hf => ?_)
        rw [if_neg fun h => hb (Option.some.inj h.2)] at hf
        exact Outcome.Fails.not_done _ _ hf
  · refine .never fun start hf => ?_
    rw [if_neg fun h => hn h.1] at hf
    exact Outcome.Fails.not_done _ _ hf

/-- At the end of the text, an escape is complete or cut off. -/
theorem readPlainEscape_end (start : Nat) (c : CodePoint) :
    ¬(readPlainEscape start c []).Fails := by
  intro hf
  unfold readPlainEscape at hf
  split at hf
  · exact Outcome.Fails.not_truncated _ hf
  · split at hf
    · exact Outcome.Fails.not_done _ _ hf
    · split at hf
      · exact Outcome.Fails.not_truncated _ hf
      · split at hf
        · exact Outcome.Fails.not_truncated _ hf
        · split at hf
          · rename_i h
            cases h.2
          · exact Outcome.Fails.not_done _ _ hf

mutual

theorem readEscape_lasting (t : Text) : Lasting readEscape t := by
  cases t with
  | nil => exact .never fun start => Outcome.Fails.not_truncated _
  | cons c t =>
    by_cases hc : c = '^'
    · subst hc
      exact .cons ((((readModified_lasting t).later 2).map applyControl).congr readEscape_control)
    · cases hm : Modifier.ofLetter? c with
      | none =>
        exact .cons ((readPlainEscape_lasting c t).congr fun start _ =>
          readEscape_plain start hc (.inl hm))
      | some m =>
        cases t with
        | nil =>
          refine .never fun start hf => ?_
          rw [readEscape_plain start hc (.inr fun h => by cases h)] at hf
          exact readPlainEscape_end start c hf
        | cons d t =>
          by_cases hd : d = '-'
          · subst hd
            exact .cons (.cons ((((readModified_lasting t).later 3).map m.apply).congr
              fun start rest => readEscape_modifier start rest hc hm))
          · have hplain : ∀ start rest, readEscape start (c :: d :: rest) =
                readPlainEscape start c (d :: rest) := fun start rest =>
              readEscape_plain start hc (.inr fun h => hd (Option.some.inj h))
            intro start hf more
            rw [hplain] at hf
            rw [List.cons_append, List.cons_append, hplain, ← List.cons_append]
            exact readPlainEscape_lasting c (d :: t) start hf more

theorem readModified_lasting (t : Text) : Lasting readModified t := by
  cases t with
  | nil => exact .never fun start => Outcome.Fails.not_truncated _
  | cons c t =>
    by_cases hc : c = '\\'
    · subst hc
      exact .cons ((readEscape_lasting t).congr fun start rest => by rw [readModified, if_pos rfl])
    · refine .cons (.never fun start hf => ?_)
      rw [readModified, if_neg hc] at hf
      exact Outcome.Fails.not_done _ _ hf

end

theorem readString_end (pos : Nat) : readString ⟨pos, []⟩ = .truncated pos := by
  rw [readString.eq_def]

theorem readString_plain (pos : Nat) {c : CodePoint} (t : Text) (hq : c ≠ '\x22') (hb : c ≠ '\\') :
    readString ⟨pos, c :: t⟩ = (readString ⟨pos + 1, t⟩).map (c :: ·) := by
  rw [readString.eq_def]
  simp [hq, hb]

theorem readString_joined (pos : Nat) {d : CodePoint} (t : Text) (hd : d = '\n' ∨ d = ' ') :
    readString ⟨pos, '\\' :: d :: t⟩ = readString ⟨pos + 2, t⟩ := by
  have hq : CodePoint.ofChar '\\' ≠ CodePoint.ofChar '\x22' := by decide
  rw [readString.eq_def]
  simp [hd, hq]

/-- A string that has ended goes on no further. -/
theorem readString_extend {cur next : Cursor} {v : Text} (h : readString cur = .done v next)
    (more : Text) : readString (cur.extend more) = .done v (next.extend more) := by
  fun_induction readString cur generalizing v with
  | case1 => cases h
  | case2 cur rest hr =>
    obtain ⟨pos, _⟩ := cur
    cases hr
    cases h
    rw [readString.eq_def]
    rfl
  | case3 cur c rest hr hq hb ih =>
    obtain ⟨pos, _⟩ := cur
    cases hr
    obtain ⟨u, hu, rfl⟩ := Outcome.map_eq_done.1 h
    rw [Cursor.extend, List.cons_append, readString_plain _ _ hq hb]
    exact Outcome.map_eq_done.2 ⟨u, ih hu, rfl⟩
  | case4 => cases h
  | case5 cur c hq hb d rest hr hd _ ih =>
    obtain ⟨pos, _⟩ := cur
    cases hr
    cases Decidable.not_not.1 hb
    rw [Cursor.extend, List.cons_append, List.cons_append, readString_joined _ _ hd]
    exact ih h
  | case6 cur c hq hb d rest hr hd code mid he _ ih =>
    obtain ⟨pos, _⟩ := cur
    cases hr
    cases Decidable.not_not.1 hb
    obtain ⟨u, hu, rfl⟩ := Outcome.map_eq_done.1 h
    -- The string goes on behind the escape, so the escape did not end the text.
    have hne : mid.rest ≠ [] := by
      obtain ⟨pos', rest'⟩ := mid
      rintro rfl
      rw [readString_end] at hu
      cases hu
    have hescape := (readEscape_local d rest).extend he hne more
    rw [Cursor.extend, List.cons_append, List.cons_append, readString_escape _ _ hd,
      Outcome.bind_of_done hescape]
    exact Outcome.map_eq_done.2 ⟨u, ih hu, rfl⟩
  | case7 => cases h
  | case8 => cases h

theorem readString_lasting (t : Text) : Lasting (fun pos rest => readString ⟨pos, rest⟩) t := by
  cases t with
  | nil =>
    refine .never fun pos hf => ?_
    rw [readString_end] at hf
    exact Outcome.Fails.not_truncated _ hf
  | cons c t =>
    by_cases hq : c = '\x22'
    · subst hq
      refine .cons (.never fun pos hf => ?_)
      rw [readString.eq_def] at hf
      exact Outcome.Fails.not_done _ _ hf
    · by_cases hb : c = '\\'
      · subst hb
        cases t with
        | nil =>
          refine .never fun pos hf => ?_
          rw [readString.eq_def] at hf
          exact Outcome.Fails.not_truncated _ hf
        | cons d t =>
          by_cases hd : d = '\n' ∨ d = ' '
          · exact .cons (.cons (((readString_lasting t).later 2).congr fun pos rest =>
              readString_joined pos rest hd))
          · refine .cons (.cons (Lasting.congr ?_ fun pos rest => readString_escape pos rest hd))
            refine .bind (readEscape_local d t)
              (fun start hf more => readEscape_lasting (d :: t) start hf more) ?_ ?_
            · intro start code pos hf
              rw [readString_end] at hf
              exact Outcome.Fails.not_truncated _ hf
            · intro start code next he hf more
              have hlen := (readEscape_from start (d :: t) code next he).length_le
              exact (readString_lasting next.rest next.pos hf.of_map more).map _
      · exact .cons ((((readString_lasting t).later 1).map (c :: ·)).congr fun pos rest =>
          readString_plain pos rest hq hb)
termination_by t.length
decreasing_by
  all_goals simp only [List.length_cons] at *; omega

theorem readCharacter_lasting (t : Text) : Lasting readCharacter t := by
  refine .bind ((readModified_local t).later 1) ((readModified_lasting t).later 1) ?_ ?_
  · intro start code pos
    exact Outcome.Fails.not_done _ _
  · intro start code next _ hf more
    obtain ⟨pos, rest⟩ := next
    cases rest with
    | nil => exact absurd hf (Outcome.Fails.not_done _ _)
    | cons c rest =>
      simp only [Cursor.extend, List.cons_append] at hf ⊢
      by_cases hc : endsCharacter c = true
      · rw [if_pos hc] at hf
        exact absurd hf (Outcome.Fails.not_done _ _)
      · rw [if_neg hc]
        exact .failed _ _

/-! ## Bool-vectors -/

theorem readBoolVector_lasting (t : Text) : Lasting readBoolVector t := by
  cases hd : t.drop (t.takeWhile CodePoint.isDigit).length with
  | nil =>
    refine .never fun start hf => ?_
    simp only [readBoolVector, hd] at hf
    exact Outcome.Fails.not_truncated _ hf
  | cons c rest =>
    obtain ⟨run, rfl, hr, hc⟩ := exists_run hd
    refine .append run (.cons (Lasting.congr ?_ fun start rest => readBoolVector_run start rest hr hc))
    refine .ite (fun _ => .always fun _ _ => .failed _ _) fun _ => ?_
    intro start hf more
    rcases hf.of_bind with hf | ⟨data, next, hs, hf⟩
    · exact ((readString_lasting rest).later _ start hf more).bind _
    · have hstring := readString_extend hs more
      rw [Cursor.extend] at hstring
      dsimp only at hf ⊢
      rw [Outcome.bind_of_done hstring]
      cases hp : Numeral.parse 10 run with
      | ok n =>
        rw [hp] at hf
        exact absurd hf (Outcome.Fails.not_done _ _)
      | error e => exact .failed _ _

end LispXref.Reading
