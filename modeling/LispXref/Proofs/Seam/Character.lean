-- Character and string literals across a seam. An escape ends where its digits,
-- its name or its letter end, and a string at its quote, so the characters taken
-- settle what is read.
import LispXref.Proofs.Seam.Basic

namespace LispXref.Reading

/-! ## Digits -/

theorem readDigits_local (k base limit : Nat) (t : Text) :
    Local k (fun start rest => readDigits (start + k) base (codeDigits base limit rest) rest) t := by
  intro start v next h
  cases h
  refine ⟨codeDigits base limit t, codeDigits_append_drop _ _ _, rfl, fun start' rest' hs => ?_⟩
  simp only [readDigits, codeDigits_append hs, List.drop_left]

theorem readHex_local (k : Nat) (t : Text) :
    Local k (fun start rest => readHex start (start + k) rest) t := by
  intro start v next h
  simp only [readHex, codeDigits_length] at h
  split at h
  · split at h <;> cases h
  · rename_i hne
    cases h
    refine ⟨_, append_drop_takeWhile _ t, rfl, fun start' rest' hs => ?_⟩
    simp only [readHex, codeDigits_length,
      takeWhile_append_of_seam (fun _ => goesOn_of_isDigitOf) hs, readDigits, List.drop_left]
    rw [if_neg hne]

theorem readExactHex_local (k count : Nat) (t : Text) :
    Local k (fun start rest => readExactHex start (start + k) count rest) t := by
  intro start v next h
  simp only [readExactHex] at h
  split at h
  · rename_i hlen
    cases h
    refine ⟨_, codeDigits_append_drop 16 count t, rfl, fun start' rest' hs => ?_⟩
    simp only [readExactHex, codeDigits_append hs, readDigits, List.drop_left]
    rw [if_pos hlen]
  · split at h <;> cases h

/-! ## Names -/

variable {known : CharacterNames}

/-- Where a name stands matters only if nothing has it. -/
theorem namedCode_ok {start : Nat} {name : Text} {code : Int} (h : namedCode start name = .ok code)
    (start' : Nat) : namedCode start' name = .ok code := by
  rcases namedCode_outcomes name with ⟨_, hcode⟩ | ⟨_, hfault⟩ | ⟨_, hfault⟩ | ⟨_, _, hfault⟩
  · rw [hcode] at h ⊢
    exact h
  all_goals
    rw [hfault] at h
    cases h

/-- A name ends at its closing brace, whatever follows the brace. -/
theorem readNamed_local (t : Text) : Local 3 readNamed t := by
  intro start v next h
  have hall : ∀ c ∈ t.takeWhile (· ≠ CodePoint.ofChar '\x7d'),
      decide (c ≠ CodePoint.ofChar '\x7d') = true :=
    fun c hc => List.all_eq_true.1 List.all_takeWhile c hc
  have ht := append_drop_takeWhile (· ≠ CodePoint.ofChar '\x7d') t
  simp only [readNamed] at h
  split at h
  · cases h
  · rename_i c rest hd
    have hc := head?_drop_takeWhile (by rw [hd]; rfl : _ = some c)
    split at h
    · rename_i hcode
      cases h
      rw [hd] at ht
      refine ⟨t.takeWhile (· ≠ CodePoint.ofChar '\x7d') ++ [c], ?_, ?_, fun start' rest' _ => ?_⟩
      · rw [List.append_assoc]
        exact ht
      · rw [List.length_append, List.length_singleton]
        rfl
      · rw [List.append_assoc, List.length_append, List.length_singleton, ← Nat.add_assoc]
        simp only [readNamed, List.singleton_append, List.takeWhile_append_of_pos hall,
          List.takeWhile_cons, hc, Bool.false_eq_true, if_false, List.append_nil, List.drop_left,
          namedCode_ok hcode start']
    · cases h

/-! ## Escapes and modifiers -/

theorem readPlainEscape_local (c : CodePoint) (t : Text) :
    Local 2 (fun start rest => readPlainEscape start c rest) t := by
  unfold readPlainEscape
  refine .ite (fun _ => readHex_local 2 t) fun _ => .ite (fun hc => ?_) fun _ =>
    .ite (fun _ => readExactHex_local 2 4 t) fun _ =>
    .ite (fun _ => readExactHex_local 2 8 t) fun _ => ?_
  · refine (readDigits_local 1 8 3 (c :: t)).uncons fun start v next h => ?_
    cases h
    have hlen : 0 < (codeDigits 8 3 (c :: t)).length := by simp [codeDigits, hc]
    simp only [List.length_drop, List.length_cons]
    omega
  · by_cases hn : c = 'N'
    · subst hn
      by_cases hb : t.head? = some (CodePoint.ofChar '\x7b')
      · cases t with
        | nil => cases hb
        | cons b t =>
          cases hb
          exact .cons ((readNamed_local t).congr fun _ _ => if_pos ⟨rfl, rfl⟩)
      · exact (Local.done fun _ _ => rfl).of_head?_ne (by decide) hb
          fun _ _ h => if_neg fun h' => h h'.2
    · exact (Local.done fun _ _ => rfl).congr fun _ _ => if_neg fun h' => hn h'.1

theorem readEscape_plain (start : Nat) {c : CodePoint} {rest : Text} (hc : c ≠ '^')
    (hm : Modifier.ofLetter? c = none ∨ rest.head? ≠ some (CodePoint.ofChar '-')) :
    readEscape start (c :: rest) = readPlainEscape start c rest := by
  rw [readEscape.eq_def]
  simp only [hc, if_false]
  split
  · rename_i m d body hl
    rcases hm with hm | hm
    · rw [hl] at hm
      cases hm
    · rw [if_neg fun hd => hm (by rw [hd]; rfl)]
  · rfl

theorem readEscape_control (start : Nat) (rest : Text) :
    readEscape start ('^' :: rest) = (readModified (start + 2) rest).map applyControl := by
  rw [readEscape.eq_def]
  simp only [if_true]

theorem readEscape_modifier (start : Nat) {c : CodePoint} {m : Modifier} (rest : Text)
    (hc : c ≠ '^') (hm : Modifier.ofLetter? c = some m) :
    readEscape start (c :: '-' :: rest) = (readModified (start + 3) rest).map m.apply := by
  rw [readEscape.eq_def]
  simp only [hc, if_false, hm, if_true]

mutual

theorem readEscape_local (c : CodePoint) (t : Text) :
    Local 2 (fun start rest => readEscape start (c :: rest)) t := by
  by_cases hc : c = '^'
  · subst hc
    exact (((readModified_local t).later 2).map applyControl).congr readEscape_control
  · cases hm : Modifier.ofLetter? c with
    | none => exact (readPlainEscape_local c t).congr fun start _ => readEscape_plain start hc (.inl hm)
    | some m =>
      by_cases hd : t.head? = some (CodePoint.ofChar '-')
      · cases t with
        | nil => cases hd
        | cons d t =>
          cases hd
          exact .cons ((((readModified_local t).later 3).map m.apply).congr
            fun start rest => readEscape_modifier start rest hc hm)
      · exact (readPlainEscape_local c t).of_head?_ne (by decide) hd
          fun start _ h => readEscape_plain start hc (.inr h)
termination_by 2 * t.length + 1

theorem readModified_local (t : Text) : Local 0 readModified t := by
  cases t with
  | nil => exact .never fun _ _ _ => nofun
  | cons c t =>
    by_cases hc : c = '\\'
    · subst hc
      cases t with
      | nil => exact .never fun _ _ _ => nofun
      | cons d t =>
        exact .cons (.cons ((readEscape_local d t).congr
          fun start rest => by rw [readModified, if_pos rfl]))
    · exact .cons (.done (v := c.val) fun start rest => by rw [readModified, if_neg hc])
termination_by 2 * t.length

end

/-! ## Strings and characters -/

theorem readString_escape (pos : Nat) {d : CodePoint} (rest : Text) (hd : ¬(d = '\n' ∨ d = ' ')) :
    readString ⟨pos, '\\' :: d :: rest⟩ = (readEscape pos (d :: rest)).bind fun code next =>
      (readString next).map (stringCharacter code :: ·) := by
  rw [readString.eq_def]
  simp only [if_neg (by decide : ¬CodePoint.ofChar '\\' = CodePoint.ofChar '\x22'), if_neg hd,
    ne_eq, not_true_eq_false, if_false]
  split
  · rename_i he
    rw [Outcome.bind_of_done he]
  · rename_i he
    rw [Outcome.bind_of_truncated he]
  · rename_i he
    rw [Outcome.bind_of_failed he]

theorem readString_local (t : Text) : Local 0 (fun pos rest => readString ⟨pos, rest⟩) t := by
  cases t with
  | nil => exact .never fun pos v next => by simp [readString]
  | cons c t =>
    by_cases hq : c = '\x22'
    · exact .cons (.done (v := []) fun pos rest => by simp [readString, hq])
    · by_cases hb : c = '\\'
      · subst hb
        cases t with
        | nil => exact .never fun pos v next => by simp [readString, hq]
        | cons d t =>
          by_cases hd : d = '\n' ∨ d = ' '
          · refine .cons (.cons (((readString_local t).later 2).congr fun pos rest => ?_))
            rw [readString.eq_def]
            simp [hd, hq]
          · refine .cons (.cons (((readEscape_local d t).bind
              (m := fun code pos rest => (readString ⟨pos, rest⟩).map (stringCharacter code :: ·))
              fun start code next he => ?_).congr fun pos rest => readString_escape pos rest hd))
            -- The escape took a character, so what is left of the string is shorter.
            have hlen := (readEscape_from start (d :: t) code next he).length_le
            exact (readString_local next.rest).map _
      · refine .cons ((((readString_local t).later 1).map (c :: ·)).congr fun pos rest => ?_)
        rw [readString.eq_def]
        simp [hq, hb]
termination_by t.length
decreasing_by
  all_goals simp only [List.length_cons] at *; omega

theorem readCharacter_eq_done {start : Nat} {t : Text} {f : Form} {next : Cursor} :
    readCharacter start t = .done f next ↔ ∃ code, readModified (start + 1) t = .done code next ∧
      f = .char code ∧ ∀ c, next.rest.head? = some c → endsCharacter c = true := by
  unfold readCharacter
  rw [Outcome.bind_eq_done]
  constructor
  · rintro ⟨code, mid, hm, hf⟩
    split at hf
    · rename_i hr
      cases hf
      exact ⟨code, hm, rfl, by simp [hr]⟩
    · rename_i c rest hr
      split at hf
      · rename_i he
        cases hf
        refine ⟨code, hm, rfl, fun d hd => ?_⟩
        rw [hr] at hd
        cases hd
        exact he
      · cases hf
  · rintro ⟨code, hm, rfl, he⟩
    refine ⟨code, next, hm, ?_⟩
    split
    · rfl
    · rename_i c rest hr
      rw [if_pos (he c (by rw [hr]; rfl))]

theorem readCharacter_local (t : Text) : Local 1 readCharacter t := by
  intro start f next h
  obtain ⟨code, hm, rfl, he⟩ := readCharacter_eq_done.1 h
  obtain ⟨taken, ht, hp, hl⟩ := (readModified_local t).later 1 start code next hm
  refine ⟨taken, ht, hp, fun start' rest' hs => ?_⟩
  refine readCharacter_eq_done.2 ⟨code, hl start' rest' hs, rfl, fun c hc => ?_⟩
  rcases hs with hs | hs
  · exact he c (by rw [← hs, hc])
  · cases rest' with
    | nil => cases hc
    | cons d rest' =>
      cases hc
      simp only [standsAlone] at hs
      simp only [endsCharacter, hs, Bool.true_or]

end LispXref.Reading
