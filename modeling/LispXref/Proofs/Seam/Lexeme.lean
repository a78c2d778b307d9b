-- Lexemes across a seam. Main statement: where the characters of a lexeme stand
-- again, in any text, the same lexeme is read, as long as the text goes on with the
-- same character, with a blank or a delimiter, or not at all.
import LispXref.Proofs.Seam.Character

namespace LispXref.Reading

/-! ## Runs of digits -/

/-- A run of a class that ends before a given character. -/
theorem takeWhile_append_cons {p : CodePoint → Bool} {run : Text} (hr : ∀ c ∈ run, p c = true)
    {c : CodePoint} (hc : p c = false) (rest : Text) : (run ++ c :: rest).takeWhile p = run := by
  rw [List.takeWhile_append_of_pos hr, List.takeWhile_cons_of_neg (by simp [hc]), List.append_nil]

/-- The run in front of a text, the character that ends it and what follows. -/
theorem exists_run {p : CodePoint → Bool} {t rest : Text} {c : CodePoint}
    (h : t.drop (t.takeWhile p).length = c :: rest) :
    ∃ run : Text, t = run ++ c :: rest ∧ (∀ d ∈ run, p d = true) ∧ p c = false :=
  ⟨t.takeWhile p, by rw [← h]; exact append_drop_takeWhile p t,
    fun d hd => List.all_eq_true.1 List.all_takeWhile d hd, head?_drop_takeWhile (by rw [h]; rfl)⟩

theorem readRadix_run (start : Nat) {run : Text} {c : CodePoint} (rest : Text)
    (hr : ∀ d ∈ run, d.isDigit = true) (hc : c.isDigit = false) :
    readRadix start (run ++ c :: rest) =
      if c.lowerAscii ≠ 'r' then .malformed start .labelledStructure start
      else match Numeral.parse 10 run with
        | .error e => .failed (.numeral run e) start
        | .ok radix =>
          if radix < 2 ∨ 36 < radix then .malformed start (.invalidRadix radix.toNat) start
          else readInteger start radix.toNat (start + (1 + run.length + 1)) rest := by
  have hpos : start + 1 + run.length + 1 = start + (1 + run.length + 1) := by omega
  have hdrop : (run ++ c :: rest).drop run.length = c :: rest := List.drop_left
  rw [readRadix.eq_def, takeWhile_append_cons hr hc, ← hpos]
  dsimp only
  generalize (run ++ c :: rest).drop run.length = t at hdrop ⊢
  subst hdrop
  rfl

theorem readRadix_local (t : Text) : Local 1 readRadix t := by
  cases hd : t.drop (t.takeWhile CodePoint.isDigit).length with
  | nil => exact .never fun start v next => by simp [readRadix, hd]
  | cons c rest =>
    obtain ⟨run, rfl, hr, hc⟩ := exists_run hd
    refine .append run (.cons (Local.congr ?_ fun start rest => readRadix_run start rest hr hc))
    refine .ite (fun _ => .failed) fun _ => ?_
    cases Numeral.parse 10 run with
    | error e => exact .failed
    | ok radix =>
      exact .ite (fun _ => .failed) fun _ => readInteger_local _ _ rest

theorem readRadix_length_lt {start : Nat} {t : Text} {x : Lexeme} {next : Cursor}
    (h : readRadix start t = .done x next) : next.rest.length < t.length := by
  cases hd : t.drop (t.takeWhile CodePoint.isDigit).length with
  | nil => simp [readRadix, hd] at h
  | cons c rest =>
    obtain ⟨run, rfl, hr, hc⟩ := exists_run hd
    rw [readRadix_run start rest hr hc] at h
    split at h
    · cases h
    · split at h
      · cases h
      · split at h
        · cases h
        · have hle : next.rest.length ≤ rest.length := (readInteger_from _ _ _ _ x next h).length_le
          rw [List.length_append, List.length_cons]
          omega

variable {known : CharacterNames}

theorem readBoolVector_run (start : Nat) {run : Text} {c : CodePoint} (rest : Text)
    (hr : ∀ d ∈ run, d.isDigit = true) (hc : c.isDigit = false) :
    readBoolVector start (run ++ c :: rest) =
      if run.isEmpty ∨ c ≠ '\x22' then .malformed start .invalidBoolVector start
      else (readString ⟨start + (2 + run.length + 1), rest⟩).bind fun data next =>
        match Numeral.parse 10 run with
        | .ok n => .done (.atom (.boolVector n.toNat data)) next
        | .error e => .failed (.numeral run e) next.pos := by
  have hpos : start + 2 + run.length + 1 = start + (2 + run.length + 1) := by omega
  have hdrop : (run ++ c :: rest).drop run.length = c :: rest := List.drop_left
  rw [readBoolVector.eq_def, takeWhile_append_cons hr hc, ← hpos]
  dsimp only
  generalize (run ++ c :: rest).drop run.length = t at hdrop ⊢
  subst hdrop
  rfl

theorem readBoolVector_local (t : Text) : Local 2 readBoolVector t := by
  cases hd : t.drop (t.takeWhile CodePoint.isDigit).length with
  | nil => exact .never fun start v next => by simp [readBoolVector, hd]
  | cons c rest =>
    obtain ⟨run, rfl, hr, hc⟩ := exists_run hd
    refine .append run (.cons (Local.congr ?_ fun start rest => readBoolVector_run start rest hr hc))
    refine .ite (fun _ => .failed) fun _ => ?_
    refine ((readString_local rest).later _).check (fun _ _ => rfl) fun data => ?_
    cases Numeral.parse 10 run with
    | ok n => exact .inl ⟨_, fun _ _ => rfl⟩
    | error e => exact .inr fun _ _ _ _ => nofun

/-! ## Dispatch -/

theorem readDispatch_record (start : Nat) (rest : Text) :
    readDispatch start ('s' :: '(' :: rest) = .done (.opener (.vector .record)) ⟨start + 3, rest⟩ := rfl

theorem readDispatch_local (c : CodePoint) (t : Text) :
    Local 2 (fun start rest => readDispatch start (c :: rest)) t := by
  by_cases hc : c = 's'
  · subst hc
    by_cases hp : t.head? = some (CodePoint.ofChar '(')
    · cases t with
      | nil => cases hp
      | cons d t =>
        cases hp
        exact .cons (.done readDispatch_record)
    · refine .never fun start v next h => ?_
      have hf : readDispatch start ('s' :: t) = .malformed start (.invalidDispatch 's') start := by
        simp only [readDispatch, hp, and_false, if_false]
        rfl
      rw [hf] at h
      cases h
  · unfold readDispatch
    simp only [hc, false_and, if_false]
    refine .ite (fun _ => .done fun _ _ => rfl) fun _ => .ite (fun _ => .done fun _ _ => rfl) fun _ =>
      .ite (fun _ => .done fun _ _ => rfl) fun _ => .ite (fun _ => readBoolVector_local t) fun _ =>
      .ite (fun _ => readSymbol_local 2 false t) fun _ => .ite (fun _ => .done fun _ _ => rfl) fun _ =>
      .ite (fun _ => readSymbol_local 2 true t) fun _ => ?_
    cases radixOf? c with
    | some radix => exact readInteger_local 2 radix t
    | none =>
      refine .ite (fun _ => ?_) fun _ => .failed
      exact (readRadix_local (c :: t)).uncons
        fun start v next h => Nat.le_of_lt_succ (readRadix_length_lt h)

/-! ## Atoms and dots -/

/-- A token ends where nothing goes on a token. -/
theorem readToken_stop {pos : Nat} {t : Text} {token : Token} {next : Cursor}
    (h : readToken pos t = .done token next) : standsAlone next.rest = true := by
  fun_induction readToken pos t generalizing token with
  | case1 =>
    cases h
    rfl
  | case2 => cases h
  | case3 pos d rest ih =>
    obtain ⟨inner, hi, _⟩ := Outcome.map_eq_done.1 h
    exact ih hi
  | case4 pos c rest _ hs =>
    cases h
    exact hs
  | case5 pos c rest _ _ ih =>
    obtain ⟨inner, hi, _⟩ := Outcome.map_eq_done.1 h
    exact ih hi

theorem readAtom_stop {pos : Nat} {t : Text} {x : Lexeme} {next : Cursor}
    (h : readAtom pos t = .done x next) : standsAlone next.rest = true := by
  obtain ⟨token, mid, ht, hx⟩ := Outcome.bind_eq_done.1 h
  split at hx
  · cases hx
    exact readToken_stop ht
  · cases hx

theorem readAtom_after (pos : Nat) (c : CodePoint) (rest : Text) (hb : isBlank c = false)
    (hd : isDelimiter c = false) : (readAtom pos (c :: rest)).After ⟨pos, c :: rest⟩ := by
  refine (readToken_after pos c rest hb hd).bind fun token next => ?_
  cases token.form with
  | ok f => exact .done _ _
  | error e => exact .failed _ _ _

/-- What starts with a dot is a token only if the dot does not stand alone. -/
theorem readDotted_local (t : Text) :
    Local 1 (fun pos rest => if standsAlone rest then .done .dot ⟨pos + 1, rest⟩
      else readAtom pos ('.' :: rest)) t := by
  intro pos x next h
  dsimp only at h ⊢
  by_cases ha : standsAlone t = true
  · rw [if_pos ha] at h
    cases h
    exact ⟨[], rfl, rfl, fun pos' rest' hs => if_pos (hs.standsAlone ha)⟩
  · rw [if_neg ha] at h
    have hl := (readAtom_local ('.' :: t)).uncons fun start v next h =>
      Nat.le_of_lt_succ (readAtom_after start _ t (by decide) (by decide) v next h).length_lt
    obtain ⟨taken, ht, hp, hl⟩ := hl pos x next h
    refine ⟨taken, ht, hp, fun pos' rest' hs => ?_⟩
    rw [if_neg]
    · exact hl pos' rest' hs
    · rw [ht] at ha
      cases taken with
      | nil => exact absurd (readAtom_stop h) ha
      | cons d taken => exact ha

/-! ## Lexemes -/

/-- A lexeme is settled by its characters and the seam behind them. -/
theorem lexemeAt_local (c : CodePoint) (t : Text) (hb : isBlank c = false) (hs : c ≠ ';') :
    Local 1 (fun pos rest => lexemeAt pos c rest) t := by
  unfold lexemeAt
  refine .ite (fun _ => .done fun _ _ => rfl) fun h1 => .ite (fun _ => .done fun _ _ => rfl) fun h2 =>
    .ite (fun _ => .done fun _ _ => rfl) fun h3 =>
    .ite (fun _ => ((readString_local t).later 1).map _) fun h4 =>
    .ite (fun _ => (readCharacter_local t).map _) fun _ =>
    .ite (fun _ => .done fun _ _ => rfl) fun h5 =>
    .ite (fun _ => .done fun _ _ => rfl) fun h6 => .ite (fun _ => ?_) fun h7 => .ite (fun _ => ?_)
    fun h8 => ?_
  · by_cases ha : t.head? = some (CodePoint.ofChar '@')
    · cases t with
      | nil => cases ha
      | cons d t =>
        cases ha
        exact .cons (.done fun _ _ => rfl)
    · exact (Local.done fun _ _ => rfl).of_head?_ne (by decide) ha fun _ _ h => if_neg h
  · cases t with
    | nil => exact .never fun _ _ _ => nofun
    | cons d t => exact .cons (readDispatch_local d t)
  · by_cases hdot : c = '.'
    · subst hdot
      simpa using readDotted_local t
    · have hd := isDelimiter_eq_false h1 h2 (by simpa using h3) h4 h5 h6 h7 h8 hs
      refine Local.congr ?_ fun _ _ => if_neg fun h => hdot h.1
      exact (readAtom_local (c :: t)).uncons fun start v next h =>
        Nat.le_of_lt_succ (readAtom_after start c t hb hd v next h).length_lt

end LispXref.Reading
