-- Stubs: the ends of texts that fail although more text may mend them. Main statement: a
-- lexeme that fails, or a block to skip, fails for good or is such a stub.
import LispXref.Proofs.Lasting
import LispXref.Proofs.Numeral
import LispXref.Proofs.Seam.Blank

namespace LispXref.Reading

/-! ## Stubs -/

/-- How an integer of a radix begins: with a letter for the radix, or with its number. -/
inductive RadixMark : Text → Nat → Prop
  | letter {c : CodePoint} {radix : Nat} : radixOf? c = some radix →
      RadixMark [CodePoint.ofChar '#', c] radix
  | number {digits : Text} {c : CodePoint} {radix : Int} : (∀ d ∈ digits, d.isDigit = true) →
      c.lowerAscii = CodePoint.ofChar 'r' → Numeral.parse 10 digits = .ok radix → 2 ≤ radix →
      radix ≤ 36 → RadixMark (CodePoint.ofChar '#' :: (digits ++ [c])) radix.toNat

/-- The texts from an offset on that fail at their end although more text may mend them,
and how they fail. -/
inductive Stub (s : Nat) : Text → Fault → Prop
  /-- A block to skip without its count. -/
  | block : Stub s (Text.of "#@") (.malformed s .invalidSkip)
  /-- A dot that may be the beginning of a token. -/
  | dot : Stub s (Text.of ".") (.malformed s .invalidDot)
  /-- A record without its parenthesis. -/
  | record : Stub s (Text.of "#s") (.malformed s (.invalidDispatch 's'))
  /-- A number sign after the tail of a list, which may be the beginning of a comment. -/
  | sign : Stub s (Text.of "#") (.malformed s .manyAfterDot)
  /-- An integer of a radix whose digits so far are no numeral. -/
  | integer {mark body : Text} {radix pos stop : Nat} {token : Token} {e : Numeral.Error} :
      RadixMark mark radix → readToken pos body = .done token ⟨stop, []⟩ →
      Numeral.parse radix token.name = .error e →
      Stub s (mark ++ body) (.malformed s (.invalidInteger radix token.name))
  /-- A token of too many digits, which may be the beginning of a symbol. -/
  | number {t : Text} {stop : Nat} {token : Token} {e : Numeral.Error} :
      readToken s t = .done token ⟨stop, []⟩ → token.form = .error e →
      Stub s t (.numeral token.name e)

theorem readToken_not_fails (pos : Nat) (t : Text) : ¬(readToken pos t).Fails := by
  fun_induction readToken pos t with
  | case1 | case4 => exact Outcome.Fails.not_done _ _
  | case2 => exact Outcome.Fails.not_truncated _
  | case3 pos d rest ih => exact fun hf => ih hf.of_map
  | case5 pos c rest _ _ ih => exact fun hf => ih hf.of_map

/-- What fails because of a token fails for good, unless the token ends the text. -/
theorem readToken_bind_fails {m : Token → Cursor → Outcome Lexeme}
    (hm : ∀ token next more, (m token next).Fails → (m token (Cursor.extend more next)).Fails)
    {pos : Nat} {t : Text} {fault : Fault} {stop : Nat}
    (h : (readToken pos t).bind m = .failed fault stop) :
    (∃ token stop', readToken pos t = .done token ⟨stop', []⟩ ∧
      m token ⟨stop', []⟩ = .failed fault stop) ∨
    ∀ more, ((readToken pos (t ++ more)).bind m).Fails := by
  rcases Outcome.Fails.of_bind ⟨fault, stop, h⟩ with hf | ⟨token, next, ht, hf⟩
  · exact absurd hf (readToken_not_fails pos t)
  · rw [Outcome.bind_of_done ht] at h
    by_cases hr : next.rest = []
    · obtain ⟨stop', rest⟩ := next
      cases hr
      exact .inl ⟨token, stop', ht, h⟩
    · right
      intro more
      rw [Outcome.bind_of_done ((readToken_local t).extend ht hr more)]
      exact hm token next more hf

/-- A reader that fails on a text fails on it however it goes on, unless the text makes a
stub together with what stands before it. -/
def LastingUnlessStub (before : Text) (f : Nat → Text → Outcome Lexeme) (t : Text) : Prop :=
  ∀ start fault stop, f start t = .failed fault stop →
    Stub start (before ++ t) fault ∨ ∀ more, (f start (t ++ more)).Fails

namespace LastingUnlessStub

variable {before t : Text} {f g : Nat → Text → Outcome Lexeme}

theorem of_lasting (h : Lasting f t) : LastingUnlessStub before f t :=
  fun start fault stop hf => .inr (h start ⟨fault, stop, hf⟩)

theorem done (h : ∀ start rest, ∃ x next, f start rest = .done x next) :
    LastingUnlessStub before f t := by
  intro start fault stop hf
  obtain ⟨x, next, hx⟩ := h start t
  rw [hx] at hf
  cases hf

theorem congr (h : LastingUnlessStub before g t) (hfg : ∀ start rest, f start rest = g start rest) :
    LastingUnlessStub before f t := by
  have : f = g := funext fun start => funext fun rest => hfg start rest
  exact this ▸ h

theorem cons {c : CodePoint}
    (h : LastingUnlessStub (before ++ [c]) (fun start rest => f start (c :: rest)) t) :
    LastingUnlessStub before f (c :: t) := by
  intro start fault stop hf
  have hstub := h start fault stop hf
  rw [List.append_assoc] at hstub
  exact hstub

theorem ite {p : Prop} [Decidable p] (hf : p → LastingUnlessStub before f t)
    (hg : ¬p → LastingUnlessStub before g t) :
    LastingUnlessStub before (fun start rest => if p then f start rest else g start rest) t := by
  by_cases hp : p
  · exact (hf hp).congr fun _ _ => if_pos hp
  · exact (hg hp).congr fun _ _ => if_neg hp

end LastingUnlessStub

theorem readAtom_lasting (t : Text) : LastingUnlessStub [] readAtom t := by
  intro pos fault stop h
  unfold readAtom at h ⊢
  refine (readToken_bind_fails ?_ h).imp_left ?_
  · intro token next more hf
    cases hform : token.form with
    | ok f =>
      rw [hform] at hf
      exact absurd hf (Outcome.Fails.not_done _ _)
    | error e => exact .failed _ _
  · rintro ⟨token, stop', ht, hf⟩
    cases hform : token.form with
    | ok f =>
      rw [hform] at hf
      cases hf
    | error e =>
      rw [hform] at hf
      cases hf
      exact .number ht hform

theorem readInteger_lasting {mark : Text} {radix : Nat} (hmark : RadixMark mark radix) (k : Nat)
    (t : Text) :
    LastingUnlessStub mark (fun start rest => readInteger start radix (start + k) rest) t := by
  intro start fault stop h
  unfold readInteger at h ⊢
  refine (readToken_bind_fails ?_ h).imp_left ?_
  · intro token next more hf
    cases hp : Numeral.parse radix token.name with
    | ok n =>
      rw [hp] at hf
      exact absurd hf (Outcome.Fails.not_done _ _)
    | error e => exact .failed _ _
  · rintro ⟨token, stop', ht, hf⟩
    cases hp : Numeral.parse radix token.name with
    | ok n =>
      rw [hp] at hf
      cases hf
    | error e =>
      rw [hp] at hf
      cases hf
      exact .integer hmark ht hp

theorem readRadix_lasting (t : Text) :
    LastingUnlessStub [CodePoint.ofChar '#'] readRadix t := by
  cases hd : t.drop (t.takeWhile CodePoint.isDigit).length with
  | nil =>
    intro start fault stop h
    simp only [readRadix, hd] at h
    cases h
  | cons c rest =>
    obtain ⟨run, rfl, hr, hc⟩ := exists_run hd
    intro start fault stop h
    have hrun : LastingUnlessStub (CodePoint.ofChar '#' :: (run ++ [c]))
        (fun start rest => readRadix start (run ++ c :: rest)) rest := by
      refine LastingUnlessStub.congr ?_ fun start rest => readRadix_run start rest hr hc
      refine .ite (fun _ => .of_lasting (.always fun _ _ => .failed _ _)) fun hletter => ?_
      cases hp : Numeral.parse 10 run with
      | error e => exact .of_lasting (.always fun _ _ => .failed _ _)
      | ok radix =>
        refine .ite (fun _ => .of_lasting (.always fun _ _ => .failed _ _)) fun hrange => ?_
        have hmark := RadixMark.number hr (Decidable.not_not.1 hletter) hp (by omega) (by omega)
        exact readInteger_lasting hmark _ rest
    have hstub := hrun start fault stop h
    simp only [List.cons_append, List.append_assoc] at hstub ⊢
    exact hstub

variable {known : CharacterNames}

theorem readDispatch_lasting (c : CodePoint) (t : Text) :
    LastingUnlessStub [CodePoint.ofChar '#', c] (fun start rest => readDispatch start (c :: rest))
      t := by
  by_cases hs : c = 's'
  · subst hs
    intro start fault stop h
    cases t with
    | nil =>
      cases h
      exact .inl .record
    | cons d t =>
      by_cases hd : d = '('
      · subst hd
        cases h
      · right
        intro more
        have hf : readDispatch start ('s' :: d :: (t ++ more)) =
            .malformed start (.invalidDispatch 's') start := by
          simp only [readDispatch, List.head?_cons, Option.some.injEq, hd, and_false, if_false]
          rfl
        exact ⟨_, _, hf⟩
  · unfold readDispatch
    simp only [hs, false_and, if_false]
    refine .ite (fun _ => .done fun _ _ => ⟨_, _, rfl⟩) fun _ =>
      .ite (fun _ => .done fun _ _ => ⟨_, _, rfl⟩) fun _ =>
      .ite (fun _ => .done fun _ _ => ⟨_, _, rfl⟩) fun _ =>
      .ite (fun _ => .of_lasting (readBoolVector_lasting t)) fun _ =>
      .ite (fun _ => .of_lasting (.never fun start hf => readToken_not_fails _ _ hf.of_map)) fun _ =>
      .ite (fun _ => .done fun _ _ => ⟨_, _, rfl⟩) fun _ =>
      .ite (fun _ => .of_lasting (.never fun start hf => readToken_not_fails _ _ hf.of_map)) fun _ => ?_
    cases hc : radixOf? c with
    | some radix => exact readInteger_lasting (.letter hc) 2 t
    | none =>
      refine .ite (fun _ => ?_) fun _ => .of_lasting (.always fun _ _ => .failed _ _)
      intro start fault stop h
      exact readRadix_lasting (c :: t) start fault stop h

/-! ## Lexemes -/

/-- A lexeme that fails fails for good, or the text ends in a stub. -/
theorem lexemeAt_lasting (c : CodePoint) (t : Text) :
    LastingUnlessStub [c] (fun pos rest => lexemeAt pos c rest) t := by
  unfold lexemeAt
  refine .ite (fun _ => .done fun _ _ => ⟨_, _, rfl⟩) fun _ =>
    .ite (fun _ => .done fun _ _ => ⟨_, _, rfl⟩) fun _ =>
    .ite (fun _ => .done fun _ _ => ⟨_, _, rfl⟩) fun _ =>
    .ite (fun _ => .of_lasting (((readString_lasting t).later 1).map _)) fun _ =>
    .ite (fun _ => .of_lasting ((readCharacter_lasting t).map _)) fun _ =>
    .ite (fun _ => .done fun _ _ => ⟨_, _, rfl⟩) fun _ =>
    .ite (fun _ => .done fun _ _ => ⟨_, _, rfl⟩) fun _ =>
    .ite (fun _ => .done fun _ rest => ?_) fun _ => .ite (fun hc => ?_) fun _ => ?_
  · split
    · exact ⟨_, _, rfl⟩
    · exact ⟨_, _, rfl⟩
  · subst hc
    cases t with
    | nil =>
      intro start fault stop h
      cases h
    | cons d t => exact .cons (readDispatch_lasting d t)
  · intro start fault stop h
    dsimp only at h ⊢
    by_cases hdot : c = '.' ∧ standsAlone t = true
    · rw [if_pos hdot] at h
      cases h
    · rw [if_neg hdot] at h
      refine (readAtom_lasting (c :: t) start fault stop h).imp_right fun hlasting more => ?_
      -- A dot that goes on a token goes on it in every text that goes on.
      have hgoes : ¬(c = '.' ∧ standsAlone (t ++ more) = true) := by
        rintro ⟨rfl, ha⟩
        cases t with
        | nil => exact hdot ⟨rfl, rfl⟩
        | cons d t => exact hdot ⟨rfl, ha⟩
      rw [if_neg hgoes]
      exact hlasting more

/-! ## Blanks -/

/-- A block to skip fails if its count is no numeral. -/
theorem skipBlock_fails_iff {mark : Nat} {t : Text} :
    (skipBlock mark t).Fails ↔ ∃ e, Numeral.parse 10 (t.takeWhile CodePoint.isDigit) = .error e := by
  have hempty : Numeral.parse 10 [] = .error .malformed := by decide
  have hzeros : Numeral.parse 10 (Text.of "00") = .ok 0 := by decide
  unfold skipBlock
  dsimp only
  generalize t.takeWhile CodePoint.isDigit = digits
  by_cases hd : digits = []
  · subst hd
    exact ⟨fun _ => ⟨_, hempty⟩, fun _ => .failed _ _⟩
  · rw [if_neg (by simpa using hd)]
    by_cases h00 : digits = Text.of "00"
    · rw [if_pos h00, h00, hzeros]
      constructor
      · intro hf
        exact absurd hf (Outcome.Fails.not_done _ _)
      · rintro ⟨e, ⟨⟩⟩
    · rw [if_neg h00]
      cases Numeral.parse 10 digits with
      | ok n =>
        constructor
        · intro hf
          exact absurd hf (Outcome.Fails.not_done _ _)
        · rintro ⟨e, ⟨⟩⟩
      | error e => exact ⟨fun _ => ⟨e, rfl⟩, fun _ => .failed _ _⟩

/-- A block to skip fails for good, unless its count is missing at the end. -/
theorem skipBlock_lasting {mark : Nat} {t : Text} {fault : Fault} {stop : Nat}
    (h : skipBlock mark t = .failed fault stop) :
    Stub mark (CodePoint.ofChar '#' :: CodePoint.ofChar '@' :: t) fault ∨
      ∀ more, (skipBlock mark (t ++ more)).Fails := by
  by_cases hnil : t = []
  · subst hnil
    cases h
    exact .inl .block
  · right
    intro more
    obtain ⟨e, he⟩ := skipBlock_fails_iff.1 ⟨fault, stop, h⟩
    rw [skipBlock_fails_iff]
    cases hd : t.drop (t.takeWhile CodePoint.isDigit).length with
    | cons c rest =>
      obtain ⟨run, rfl, hr, hc⟩ := exists_run hd
      rw [takeWhile_append_cons hr hc] at he
      rw [List.append_assoc, List.cons_append, takeWhile_append_cons hr hc]
      exact ⟨e, he⟩
    | nil =>
      -- The whole text is the count, and the count may go on.
      have ht : t.takeWhile CodePoint.isDigit = t := by
        have hsplit := append_drop_takeWhile CodePoint.isDigit t
        rw [hd, List.append_nil] at hsplit
        exact hsplit.symm
      have hall : ∀ c ∈ t, c.isDigit = true := List.takeWhile_eq_self_iff.1 ht
      rw [ht] at he
      rw [List.takeWhile_append_of_pos hall]
      refine Numeral.parse_append_digits he hnil fun c hc => ?_
      rcases List.mem_append.1 hc with hc | hc
      · exact hall c hc
      · exact List.all_eq_true.1 List.all_takeWhile c hc

/-- Skipping fails at a block, and before it only blanks and comments are skipped. -/
theorem exists_block_of_skipBlanks {cur : Cursor} {fault : Fault} {stop : Nat}
    (h : skipBlanks cur = .failed fault stop) :
    ∃ mid rest, Skips cur mid ∧ mid.rest = CodePoint.ofChar '#' :: CodePoint.ofChar '@' :: rest ∧
      skipBlock mid.pos rest = .failed fault stop := by
  have inside : ∀ {mid : Cursor}, skipBlanks mid = .failed fault stop → mid.rest ≠ [] := by
    intro mid hm hr
    rw [skipBlanks.eq_def] at hm
    split at hm
    · cases hm
    · rename_i hr'
      rw [hr] at hr'
      cases hr'
  fun_induction skipBlanks cur with
  | case1 | case4 | case7 | case9 | case10 => cases h
  | case2 cur c rest hr hb ih =>
    obtain ⟨mid, rest', hs, hm⟩ := ih h
    exact ⟨mid, rest', (Skips.blank hr hb).trans hs, hm⟩
  | case3 cur rest hr _ ih =>
    obtain ⟨mid, rest', hs, hm⟩ := ih h
    exact ⟨mid, rest', (Skips.comment hr (inside h)).trans hs, hm⟩
  | case5 cur rest _ _ _ hr ih =>
    obtain ⟨mid, rest', hs, hm⟩ := ih h
    exact ⟨mid, rest', (Skips.line hr (inside h)).trans hs, hm⟩
  | case6 cur rest next hb _ _ _ _ hr ih =>
    obtain ⟨mid, rest', hs, hm⟩ := ih h
    exact ⟨mid, rest', (Skips.block hr hb (inside h)).trans hs, hm⟩
  | case8 cur rest fault stop hb _ _ _ _ hr =>
    cases h
    exact ⟨cur, rest, .refl cur, hr, hb⟩

/-- What is skipped before something else is skipped when the text goes on. -/
theorem Skips.extend {cur next : Cursor} (h : Skips cur next) (hne : next.rest ≠ []) (more : Text) :
    skipBlanks (cur.extend more) = skipBlanks (next.extend more) := by
  obtain ⟨taken, ht, hp, hl⟩ := h
  rw [Cursor.extend, Cursor.extend, ht, hp, List.append_assoc]
  exact hl cur.pos _ (.extend hne more)

end LispXref.Reading
