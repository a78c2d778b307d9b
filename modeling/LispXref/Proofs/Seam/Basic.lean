-- How far reading looks ahead. What is read is settled by the characters it takes
-- and by the seam behind them: it stays the same when the text goes on with the
-- same character, with a blank or a delimiter, or not at all. Here for tokens and
-- runs of digits; the other pieces follow.
import LispXref.Reading.Lexeme

namespace LispXref

theorem CodePoint.eq_ofChar_iff (c : CodePoint) (d : Char) :
    c = CodePoint.ofChar d ↔ c.val = d.toNat := by
  cases c
  simp [CodePoint.ofChar]

namespace Reading

/-! ## Seams -/

/-- One text may take the place of another behind a lexeme: it begins with the same
character, or with none that could go on a token. -/
def Seam (rest rest' : Text) : Prop := rest'.head? = rest.head? ∨ standsAlone rest' = true

theorem Seam.refl (rest : Text) : Seam rest rest := .inl rfl

theorem Seam.end (rest : Text) : Seam rest [] := .inr rfl

theorem Seam.append {rest rest' : Text} (h : Seam rest rest') (taken : Text) :
    Seam (taken ++ rest) (taken ++ rest') := by
  cases taken with
  | nil => exact h
  | cons c taken => exact .inl rfl

theorem standsAlone_of_head? {rest rest' : Text} (h : rest'.head? = rest.head?) :
    standsAlone rest' = standsAlone rest := by
  cases rest <;> cases rest' <;> simp_all [standsAlone]

theorem Seam.standsAlone {rest rest' : Text} (h : Seam rest rest') (ha : standsAlone rest = true) :
    standsAlone rest' = true := by
  rcases h with h | h
  · rw [standsAlone_of_head? h, ha]
  · exact h

/-- A character that can go on a token stands behind a seam only if it stood there
before. -/
theorem Seam.head?_eq {rest rest' : Text} (h : Seam rest rest') {c : CodePoint}
    (hc : rest'.head? = some c) (hs : (isBlank c || isDelimiter c) = false) : rest.head? = some c := by
  rcases h with h | h
  · rw [← h, hc]
  · cases rest' with
    | nil => cases hc
    | cons d t =>
      cases hc
      simp only [Reading.standsAlone] at h
      rw [h] at hs
      cases hs

/-! ## Readers that look no further -/

/-- What `f` reads of `t`, which starts `k` characters after a given offset, is
settled by the characters it takes and by the seam behind them. -/
def Local {α : Type} (k : Nat) (f : Nat → Text → Outcome α) (t : Text) : Prop :=
  ∀ start v next, f start t = .done v next →
    ∃ taken, t = taken ++ next.rest ∧ next.pos = start + k + taken.length ∧
      ∀ start' rest', Seam next.rest rest' →
        f start' (taken ++ rest') = .done v ⟨start' + k + taken.length, rest'⟩

namespace Local

variable {α β : Type} {k : Nat} {f g : Nat → Text → Outcome α} {t : Text}

theorem never (h : ∀ start v next, f start t ≠ .done v next) : Local k f t :=
  fun start v next hf => absurd hf (h start v next)

/-- A reader that fails whatever the text is. -/
theorem failed {fault : Nat → Text → Fault} {stop : Nat → Text → Nat} :
    Local k (fun start rest => (.failed (fault start rest) (stop start rest) : Outcome α)) t := by
  intro start v next h
  cases h

/-- A reader that takes nothing more. -/
theorem done {v : α} (h : ∀ start rest, f start rest = .done v ⟨start + k, rest⟩) :
    Local k f t := by
  intro start v' next hf
  rw [h] at hf
  cases hf
  exact ⟨[], rfl, rfl, fun start' rest' _ => h start' rest'⟩

theorem congr (h : Local k g t) (hfg : ∀ start rest, f start rest = g start rest) :
    Local k f t := by
  have : f = g := funext fun start => funext fun rest => hfg start rest
  exact this ▸ h

/-- A reader that is given a later offset. -/
theorem later (h : Local 0 f t) (k : Nat) : Local k (fun start rest => f (start + k) rest) t := by
  intro start v next hf
  obtain ⟨taken, ht, hp, hl⟩ := h (start + k) v next hf
  exact ⟨taken, ht, hp, fun start' rest' hs => hl (start' + k) rest' hs⟩

/-- Passing a character that is settled. -/
theorem cons {c : CodePoint} (h : Local (k + 1) (fun start rest => f start (c :: rest)) t) :
    Local k f (c :: t) := by
  intro start v next hf
  obtain ⟨taken, ht, hp, hl⟩ := h start v next hf
  refine ⟨c :: taken, by rw [ht, List.cons_append], by rw [hp, List.length_cons]; omega, ?_⟩
  intro start' rest' hs
  have hlen : start' + k + (c :: taken).length = start' + (k + 1) + taken.length := by
    rw [List.length_cons]
    omega
  rw [hlen, List.cons_append]
  exact hl start' rest' hs

theorem append (run : Text)
    (h : Local (k + run.length) (fun start rest => f start (run ++ rest)) t) :
    Local k f (run ++ t) := by
  induction run generalizing k f with
  | nil => exact h
  | cons c run ih =>
    refine cons (ih ?_)
    rw [List.length_cons, Nat.add_comm run.length, ← Nat.add_assoc] at h
    exact h

/-- The converse of passing a character: the first character was taken. -/
theorem uncons {c : CodePoint} (h : Local k f (c :: t))
    (hc : ∀ start v next, f start (c :: t) = .done v next → next.rest.length ≤ t.length) :
    Local (k + 1) (fun start rest => f start (c :: rest)) t := by
  intro start v next hf
  obtain ⟨taken, ht, hp, hl⟩ := h start v next hf
  cases taken with
  | nil =>
    have hlen := hc start v next hf
    rw [List.nil_append] at ht
    rw [← ht, List.length_cons] at hlen
    omega
  | cons d taken =>
    rw [List.cons_append, List.cons.injEq] at ht
    obtain ⟨rfl, ht⟩ := ht
    refine ⟨taken, ht, by rw [hp, List.length_cons]; omega, fun start' rest' hs => ?_⟩
    have hlen : start' + (k + 1) + taken.length = start' + k + (c :: taken).length := by
      rw [List.length_cons]
      omega
    rw [hlen]
    exact hl start' rest' hs

/-- A reader that does something else only before a given character of tokens. -/
theorem of_head?_ne {d : CodePoint} (h : Local k g t) (hd : (isBlank d || isDelimiter d) = false)
    (ht : t.head? ≠ some d) (hfg : ∀ start rest, rest.head? ≠ some d → f start rest = g start rest) :
    Local k f t := by
  intro start v next hf
  rw [hfg start t ht] at hf
  obtain ⟨taken, htake, hp, hl⟩ := h start v next hf
  refine ⟨taken, htake, hp, fun start' rest' hs => ?_⟩
  rw [hfg start' _ ?_]
  · exact hl start' rest' hs
  · intro hh
    rw [htake] at ht
    exact ht ((hs.append taken).head?_eq hh hd)

theorem map (h : Local k f t) (m : α → β) : Local k (fun start rest => (f start rest).map m) t := by
  intro start v next hf
  obtain ⟨a, ha, hv⟩ := Outcome.map_eq_done.1 hf
  obtain ⟨taken, ht, hp, hl⟩ := h start a next ha
  refine ⟨taken, ht, hp, fun start' rest' hs => ?_⟩
  exact Outcome.map_eq_done.2 ⟨a, hl start' rest' hs, hv⟩

theorem ite {p : Prop} [Decidable p] (hf : p → Local k f t) (hg : ¬p → Local k g t) :
    Local k (fun start rest => if p then f start rest else g start rest) t := by
  by_cases hp : p
  · exact (hf hp).congr fun _ _ => if_pos hp
  · exact (hg hp).congr fun _ _ => if_neg hp

/-- Going on after a value with another reader. -/
theorem bind {m : α → Nat → Text → Outcome β} (h : Local k f t)
    (hm : ∀ start a next, f start t = .done a next → Local 0 (m a) next.rest) :
    Local k (fun start rest => (f start rest).bind fun a next => m a next.pos next.rest) t := by
  intro start v next hv
  obtain ⟨a, mid, ha, hv⟩ := Outcome.bind_eq_done.1 hv
  obtain ⟨taken, ht, hp, hl⟩ := h start a mid ha
  obtain ⟨more, hr, hq, hl'⟩ := hm start a mid ha mid.pos v next hv
  refine ⟨taken ++ more, by rw [ht, hr, List.append_assoc],
    by rw [hq, hp, List.length_append]; omega, ?_⟩
  intro start' rest' hs
  have hmid := hl start' (more ++ rest') (hr ▸ hs.append more)
  have hend := hl' (start' + k + taken.length) rest' hs
  rw [List.append_assoc, List.length_append, ← Nat.add_assoc]
  exact (Outcome.bind_of_done hmid _).trans hend

/-- Accepting or refusing a value, whatever the place. -/
theorem check {f' : Nat → Text → Outcome β} (h : Local k f t) {m : α → Nat → Cursor → Outcome β}
    (hf : ∀ start rest, f' start rest = (f start rest).bind fun a next => m a start next)
    (hm : ∀ a, (∃ b, ∀ start next, m a start next = .done b next) ∨
      ∀ start next b after, m a start next ≠ .done b after) : Local k f' t := by
  intro start v next hv
  rw [hf] at hv
  obtain ⟨a, mid, ha, hv⟩ := Outcome.bind_eq_done.1 hv
  rcases hm a with ⟨b, hb⟩ | hn
  · rw [hb] at hv
    cases hv
    obtain ⟨taken, ht, hp, hl⟩ := h start a _ ha
    refine ⟨taken, ht, hp, fun start' rest' hs => ?_⟩
    rw [hf, Outcome.bind_of_done (hl start' rest' hs), hb]
  · exact absurd hv (hn _ _ _ _)

end Local

/-! ## Tokens -/

theorem readToken_of_standsAlone (pos : Nat) {t : Text} (h : standsAlone t = true) :
    readToken pos t = .done ⟨[], false⟩ ⟨pos, t⟩ := by
  cases t with
  | nil => rfl
  | cons c rest =>
    simp only [standsAlone] at h
    have hc : c ≠ '\\' := by
      rintro rfl
      exact absurd h (by decide)
    rw [readToken.eq_def]
    simp only [hc, h, if_true, if_false]

theorem readToken_escaped (pos : Nat) (d : CodePoint) (rest : Text) :
    readToken pos ('\\' :: d :: rest) = (readToken (pos + 2) rest).map (Token.pushEscaped d) := by
  rw [readToken.eq_def]
  simp only [if_true]

theorem readToken_plain (pos : Nat) {c : CodePoint} (rest : Text) (hc : c ≠ '\\')
    (hs : (isBlank c || isDelimiter c) = false) :
    readToken pos (c :: rest) = (readToken (pos + 1) rest).map (Token.push c) := by
  rw [readToken.eq_def]
  simp only [hc, hs, if_false, Bool.false_eq_true]

theorem readToken_local (t : Text) : Local 0 readToken t := by
  cases t with
  | nil =>
    intro start v next h
    cases h
    exact ⟨[], rfl, rfl, fun _ _ hs => readToken_of_standsAlone _ (hs.standsAlone rfl)⟩
  | cons c rest =>
    by_cases hc : c = '\\'
    · subst hc
      cases rest with
      | nil => exact .never fun start v next => by simp [readToken]
      | cons d rest =>
        exact .cons (.cons ((((readToken_local rest).later 2).map (Token.pushEscaped d)).congr
          fun start t => readToken_escaped start d t))
    · by_cases hs : (isBlank c || isDelimiter c) = true
      · intro start v next h
        have ha : standsAlone (c :: rest) = true := hs
        rw [readToken_of_standsAlone start ha] at h
        cases h
        exact ⟨[], rfl, rfl, fun _ _ hs' => readToken_of_standsAlone _ (hs'.standsAlone ha)⟩
      · exact .cons ((((readToken_local rest).later 1).map (Token.push c)).congr
          fun start t => readToken_plain start t hc (by simpa using hs))

theorem readAtom_local (t : Text) : Local 0 readAtom t := by
  refine (readToken_local t).check (fun _ _ => rfl) fun token => ?_
  cases token.form with
  | ok f => exact .inl ⟨_, fun _ _ => rfl⟩
  | error e => exact .inr fun _ _ _ _ => nofun

theorem readSymbol_local (k : Nat) (interned : Bool) (t : Text) :
    Local k (fun start rest => readSymbol (start + k) interned rest) t :=
  ((readToken_local t).later k).map _

theorem readInteger_local (k radix : Nat) (t : Text) :
    Local k (fun start rest => readInteger start radix (start + k) rest) t := by
  refine ((readToken_local t).later k).check (fun _ _ => rfl) fun token => ?_
  cases Numeral.parse radix token.name with
  | ok n => exact .inl ⟨_, fun _ _ => rfl⟩
  | error e => exact .inr fun _ _ _ _ => nofun

/-! ## Runs of digits -/

theorem isDelimiter_eq_mem (c : CodePoint) :
    isDelimiter c = decide (c.val ∈ [34, 39, 59, 40, 41, 91, 93, 35, 96, 44]) := by
  simp [isDelimiter, CodePoint.eq_ofChar_iff, Bool.or_assoc]

theorem between_of_isDigitOf {base : Nat} {c : CodePoint} (h : c.isDigitOf base = true) :
    c.between '0' '9' = true ∨ c.between 'a' 'z' = true ∨ c.between 'A' 'Z' = true := by
  unfold CodePoint.isDigitOf CodePoint.digitValue? at h
  by_cases h1 : c.between '0' '9' = true
  · exact .inl h1
  · by_cases h2 : c.between 'a' 'z' = true
    · exact .inr (.inl h2)
    · by_cases h3 : c.between 'A' 'Z' = true
      · exact .inr (.inr h3)
      · simp [h1, h2, h3] at h

/-- A digit of a base goes on a token. -/
theorem goesOn_of_isDigitOf {base : Nat} {c : CodePoint} (h : c.isDigitOf base = true) :
    (isBlank c || isDelimiter c) = false := by
  have hr := between_of_isDigitOf h
  simp only [CodePoint.between, decide_eq_true_eq, Char.reduceToNat] at hr
  simp only [isDelimiter_eq_mem, isBlank, Bool.or_eq_false_iff, decide_eq_false_iff_not,
    List.mem_cons, List.not_mem_nil, or_false]
  omega

/-- What follows the longest run of a class does not begin with one of the class. -/
theorem head?_drop_takeWhile {p : CodePoint → Bool} {t : Text} {c : CodePoint}
    (h : (t.drop (t.takeWhile p).length).head? = some c) : p c = false := by
  induction t with
  | nil => cases h
  | cons d t ih =>
    by_cases hd : p d = true
    · rw [List.takeWhile_cons_of_pos hd] at h
      exact ih h
    · rw [List.takeWhile_cons_of_neg hd] at h
      cases h
      simpa using hd

/-- The longest run of a class that no blank and no delimiter belongs to stays the
same across a seam. -/
theorem takeWhile_append_of_seam {p : CodePoint → Bool}
    (hp : ∀ c, p c = true → (isBlank c || isDelimiter c) = false) {t rest' : Text}
    (hs : Seam (t.drop (t.takeWhile p).length) rest') :
    (t.takeWhile p ++ rest').takeWhile p = t.takeWhile p := by
  rw [List.takeWhile_append_of_pos fun c hc => List.all_eq_true.1 List.all_takeWhile c hc]
  cases rest' with
  | nil => simp
  | cons c rest' =>
    have hc : p c = false := by
      by_cases hc : p c = true
      · exact head?_drop_takeWhile (hs.head?_eq rfl (hp c hc))
      · simpa using hc
    simp [hc]

theorem append_drop_takeWhile (p : CodePoint → Bool) (t : Text) :
    t = t.takeWhile p ++ t.drop (t.takeWhile p).length :=
  (List.prefix_iff_eq_append.1 (List.takeWhile_prefix p)).symm

theorem codeDigits_append_drop (base limit : Nat) (t : Text) :
    t = codeDigits base limit t ++ t.drop (codeDigits base limit t).length :=
  (List.prefix_iff_eq_append.1 ((List.take_prefix _ _).trans (List.takeWhile_prefix _))).symm

theorem codeDigits_append {base limit : Nat} {t rest' : Text}
    (hs : Seam (t.drop (codeDigits base limit t).length) rest') :
    codeDigits base limit (codeDigits base limit t ++ rest') = codeDigits base limit t := by
  unfold codeDigits at hs ⊢
  by_cases hl : limit ≤ (t.takeWhile (CodePoint.isDigitOf base)).length
  · rw [List.takeWhile_append_of_pos fun c hc =>
      List.all_eq_true.1 List.all_takeWhile c (List.mem_of_mem_take hc)]
    exact List.take_left' (by rw [List.length_take, Nat.min_eq_left hl])
  · have ht : (t.takeWhile (CodePoint.isDigitOf base)).take limit =
        t.takeWhile (CodePoint.isDigitOf base) := List.take_of_length_le (by omega)
    rw [ht] at hs ⊢
    rw [takeWhile_append_of_seam (fun _ => goesOn_of_isDigitOf) hs, ht]

/-- Without a limit all digits count. -/
theorem codeDigits_length (base : Nat) (t : Text) :
    codeDigits base t.length t = t.takeWhile (CodePoint.isDigitOf base) :=
  List.take_of_length_le (List.takeWhile_prefix _).length_le

end Reading

end LispXref
