-- Texts that are cut off. Main statement: the beginning of a text that can be read can
-- be read as well, unless it ends in a stub.
import LispXref.Proofs.Sequence
import LispXref.Proofs.Stub
import LispXref.Reading.SomeNames

namespace LispXref

namespace Reading

/-! ## Places before a stub -/

/-- The text from a place on ends in a stub that fails with a fault. -/
def Cursor.EndsInStub (cur : Cursor) (fault : Fault) : Prop :=
  ∃ mid : Cursor, cur.Reaches mid ∧ Stub mid.pos mid.rest fault

theorem Cursor.EndsInStub.of_reaches {a b : Cursor} {fault : Fault} (h : b.EndsInStub fault)
    (hab : a.Reaches b) : a.EndsInStub fault := by
  obtain ⟨mid, hmid, hstub⟩ := h
  exact ⟨mid, hab.trans hmid, hstub⟩

/-! ## Blanks -/

/-- A number sign that is not skipped has neither mark of a comment after it. -/
theorem ne_of_skipBlanks_sign {pos : Nat} {d : CodePoint} {rest : Text}
    (h : skipBlanks ⟨pos, '#' :: d :: rest⟩ = .done () ⟨pos, '#' :: d :: rest⟩) :
    d ≠ '!' ∧ d ≠ '@' := by
  constructor
  · rintro rfl
    rw [skipBlanks_line] at h
    have hafter := (reaches_afterLine (pos + 2) rest).length_le
    have hlen := (skipBlanks_from _ _ _ h).length_le
    simp only [List.length_cons] at hlen hafter
    omega
  · rintro rfl
    rw [skipBlanks_block] at h
    obtain ⟨_, mid, hblock, hskip⟩ := Outcome.bind_eq_done.1 h
    have hafter := (skipBlock_from _ _ _ _ hblock).length_le
    have hlen := (skipBlanks_from _ _ _ hskip).length_le
    simp only [List.length_cons] at hlen hafter
    omega

/-- Where a text goes on, skipping stops where it did, except before a number sign that
ended the text. -/
theorem skipBlanks_extend {cur next : Cursor} (h : skipBlanks cur = .done () next)
    (hne : next.rest ≠ []) (hsign : next.rest ≠ [CodePoint.ofChar '#']) (more : Text) :
    skipBlanks (cur.extend more) = .done () (next.extend more) := by
  rw [(skips_of_skipBlanks h hne).extend hne more]
  have hstop := skipBlanks_again h
  have hfirst := skipBlanks_stop cur next h
  obtain ⟨pos, rest⟩ := next
  cases rest with
  | nil => exact absurd rfl hne
  | cons c rest =>
    obtain ⟨hb, hc⟩ := hfirst c rest rfl
    rw [Cursor.extend, List.cons_append, skipBlanks.eq_def]
    by_cases hs : c = '#'
    · subst hs
      cases rest with
      | nil => exact absurd rfl hsign
      | cons d rest =>
        obtain ⟨hbang, hat⟩ := ne_of_skipBlanks_sign hstop
        simp only [hb, hc, List.cons_append, hbang, hat, if_false, if_true, Bool.false_eq_true]
    · simp only [hb, hc, hs, if_false, Bool.false_eq_true]

theorem skipBlanks_fails_extend {cur : Cursor} {fault : Fault} {stop : Nat}
    (h : skipBlanks cur = .failed fault stop) (more : Text) :
    cur.EndsInStub fault ∨ (skipBlanks (cur.extend more)).Fails := by
  obtain ⟨mid, rest, hs, hr, hblock⟩ := exists_block_of_skipBlanks h
  have hreach : cur.Reaches mid := by
    obtain ⟨taken, ht, hp, _⟩ := hs
    exact ⟨taken, ht, hp⟩
  rcases skipBlock_lasting hblock with hstub | hlasting
  · left
    rw [← hr] at hstub
    exact ⟨mid, hreach, hstub⟩
  · right
    rw [hs.extend (by rw [hr]; exact List.cons_ne_nil _ _) more, Cursor.extend, hr, List.cons_append,
      List.cons_append, skipBlanks_block]
    exact (hlasting more).bind _

/-! ## Lexemes -/

variable {known : CharacterNames}

theorem lex_end (pos : Nat) : lex ⟨pos, []⟩ = .done none ⟨pos, []⟩ := by
  unfold lex
  rw [Outcome.bind_of_done (skipBlanks_end rfl)]

theorem lex_none {cur next : Cursor} (h : lex cur = .done none next) : next.rest = [] := by
  obtain ⟨_, mid, _, hx⟩ := Outcome.bind_eq_done.1 h
  split at hx
  · rename_i hr
    cases hx
    exact hr
  · obtain ⟨y, _, hy⟩ := Outcome.map_eq_done.1 hx
    cases hy

theorem lexemeAt_sign_end (pos : Nat) : lexemeAt pos '#' [] = .truncated pos := rfl

theorem lex_fails_extend {cur : Cursor} {fault : Fault} {stop : Nat}
    (h : lex cur = .failed fault stop) (more : Text) :
    cur.EndsInStub fault ∨ (lex (cur.extend more)).Fails := by
  unfold lex at h ⊢
  cases hs : skipBlanks cur with
  | truncated stop =>
    rw [Outcome.bind_of_truncated hs] at h
    cases h
  | failed fault' stop' =>
    rw [Outcome.bind_of_failed hs] at h
    cases h
    exact (skipBlanks_fails_extend hs more).imp_right fun hf => hf.bind _
  | done u mid =>
    have hreach := skipBlanks_from _ _ _ hs
    rw [Outcome.bind_of_done hs] at h
    obtain ⟨pos, rest⟩ := mid
    cases rest with
    | nil => cases h
    | cons c rest =>
      dsimp only at h
      have hsign : c :: rest ≠ [CodePoint.ofChar '#'] := by
        rintro ⟨⟩
        rw [lexemeAt_sign_end] at h
        cases h
      rw [Outcome.bind_of_done (skipBlanks_extend hs (List.cons_ne_nil c rest) hsign more)]
      dsimp only [Cursor.extend, List.cons_append]
      cases hx : lexemeAt pos c rest with
      | done x next =>
        rw [hx] at h
        cases h
      | truncated stop =>
        rw [hx] at h
        cases h
      | failed fault' stop' =>
        rw [hx] at h
        cases h
        rcases lexemeAt_lasting c rest pos fault stop hx with hstub | hlasting
        · exact .inl ⟨_, hreach, hstub⟩
        · exact .inr ((hlasting more).map _)

/-- A lexeme that does not end the text is the same where the text goes on, and so is a
closing delimiter. -/
theorem lex_extend {cur next : Cursor} {x : Lexed} (h : lex cur = .done (some x) next)
    (hnext : next.rest ≠ [] ∨ ∃ c, x.lexeme = .closer c) (more : Text) :
    lex (cur.extend more) = .done (some x) (next.extend more) := by
  obtain ⟨_, ⟨pos, rest⟩, hs, hx⟩ := Outcome.bind_eq_done.1 h
  cases rest with
  | nil => cases hx
  | cons c rest =>
    obtain ⟨hb, hc⟩ := skipBlanks_stop _ _ hs c rest rfl
    obtain ⟨y, hy, hxy⟩ := Outcome.map_eq_done.1 hx
    cases hxy
    have hsign : c :: rest ≠ [CodePoint.ofChar '#'] := by
      rintro ⟨⟩
      rw [lexemeAt_sign_end] at hy
      cases hy
    have hext : lexemeAt pos c (rest ++ more) = .done y (next.extend more) := by
      by_cases hr : next.rest = []
      · obtain ⟨d, rfl⟩ := hnext.resolve_left (absurd hr)
        obtain ⟨hspell, hpos⟩ := lexemeAt_spelled pos c rest _ _ hy
        obtain ⟨rfl, rfl⟩ := List.cons.inj hspell
        rw [lexemeAt_closer pos (isCloser_of_lexemeAt hy), ← hpos]
        rfl
      · exact (lexemeAt_local c rest hb hc).extend hy hr more
    unfold lex
    rw [Outcome.bind_of_done (skipBlanks_extend hs (List.cons_ne_nil c rest) hsign more)]
    dsimp only [Cursor.extend, List.cons_append]
    rw [hext]
    rfl

/-- A dot that ends the text may be the beginning of a token. -/
theorem endsInStub_of_lex_dot {cur : Cursor} {s pos : Nat}
    (h : lex cur = .done (some ⟨s, .dot⟩) ⟨pos, []⟩) :
    cur.EndsInStub (.malformed s .invalidDot) := by
  obtain ⟨_, mid, hs, hx⟩ := Outcome.bind_eq_done.1 h
  have hreach := skipBlanks_from _ _ _ hs
  split at hx
  · cases hx
  · rename_i c rest hr
    obtain ⟨y, hy, hxy⟩ := Outcome.map_eq_done.1 hx
    cases hxy
    obtain ⟨hspell, _⟩ := lexemeAt_spelled mid.pos c rest _ _ hy
    refine ⟨mid, hreach, ?_⟩
    rw [hr, hspell]
    exact .dot

/-! ## Two texts side by side -/

/-- Where reading got at the end of a text, more text may change: it read something that
ends the text, though no closing delimiter, or it ran out of text, or it failed at a stub. -/
inductive Unsettled {α : Type} (cur : Cursor) : Bool → Outcome α → Prop
  | ended (v : α) (pos : Nat) : Unsettled cur false (.done v ⟨pos, []⟩)
  | truncated (closed : Bool) (stop : Nat) : Unsettled cur closed (.truncated stop)
  | stub (closed : Bool) {fault : Fault} (stop : Nat) : cur.EndsInStub fault →
      Unsettled cur closed (.failed fault stop)

/-- How reading from a place ends in a text that goes on, next to how it ended before:
it reads the same, or it fails as well, unless the end was unsettled. What is `closed` ends
with a closing delimiter. -/
inductive Continues {α : Type} (cur : Cursor) (more : Text) (closed : Bool) :
    Outcome α → Outcome α → Prop
  | again (v : α) (next : Cursor) :
      Continues cur more closed (.done v next) (.done v (next.extend more))
  | fails {o o' : Outcome α} : o.Fails → o'.Fails → Continues cur more closed o o'
  | unsettled {o : Outcome α} (o' : Outcome α) : Unsettled cur closed o →
      Continues cur more closed o o'

namespace Unsettled

variable {α β : Type} {cur : Cursor} {closed : Bool} {o : Outcome α}

theorem of_reaches {mid : Cursor} (h : Unsettled mid closed o) (hr : cur.Reaches mid) :
    Unsettled cur closed o := by
  cases h with
  | ended v pos => exact .ended v pos
  | truncated _ stop => exact .truncated _ stop
  | stub _ stop hs => exact .stub _ stop (hs.of_reaches hr)

theorem bind {closed' : Bool} {f : α → Cursor → Outcome β} (h : Unsettled cur closed o)
    (hf : closed = false → ∀ v pos, Unsettled cur closed' (f v ⟨pos, []⟩)) :
    Unsettled cur closed' (o.bind f) := by
  cases h with
  | ended v pos => exact hf rfl v pos
  | truncated _ stop => exact .truncated _ stop
  | stub _ stop hs => exact .stub _ stop hs

theorem map (h : Unsettled cur closed o) (m : α → β) : Unsettled cur closed (o.map m) := by
  cases h with
  | ended v pos => exact .ended _ pos
  | truncated _ stop => exact .truncated _ stop
  | stub _ stop hs => exact .stub _ stop hs

end Unsettled

namespace Continues

variable {α β : Type} {cur : Cursor} {more : Text} {closed closed' : Bool} {o o' : Outcome α}

theorem of_reaches {mid : Cursor} (h : Continues mid more closed o o') (hr : cur.Reaches mid) :
    Continues cur more closed o o' := by
  cases h with
  | again v next => exact .again v next
  | fails hf hf' => exact .fails hf hf'
  | unsettled o' hu => exact .unsettled o' (hu.of_reaches hr)

theorem map (h : Continues cur more closed o o') (m : α → β) :
    Continues cur more closed (o.map m) (o'.map m) := by
  cases h with
  | again v next => exact .again (m v) next
  | fails hf hf' => exact .fails (hf.map m) (hf'.map m)
  | unsettled o' hu => exact .unsettled _ (hu.map m)

theorem bind {f : α → Cursor → Outcome β} (h : Continues cur more closed o o')
    (hfrom : o.From cur)
    (hgo : ∀ v next, o = .done v next →
      Continues next more closed' (f v next) (f v (next.extend more)))
    (hend : closed = false → ∀ v pos, Unsettled cur closed' (f v ⟨pos, []⟩)) :
    Continues cur more closed' (o.bind f) (o'.bind f) := by
  cases h with
  | again v next => exact (hgo v next rfl).of_reaches (hfrom v next rfl)
  | fails hf hf' => exact .fails (hf.bind f) (hf'.bind f)
  | unsettled o' hu => exact .unsettled _ (hu.bind hend)

theorem of_done {v : α} {next : Cursor} (h : Continues cur more closed (.done v next) o') :
    o' = .done v (next.extend more) ∨ next.rest = [] := by
  cases h with
  | again _ _ => exact .inl rfl
  | fails hf _ => exact absurd hf (Outcome.Fails.not_done v next)
  | unsettled _ hu =>
    cases hu
    exact .inr rfl

theorem of_failed {fault : Fault} {stop : Nat} (h : Continues cur more closed (.failed fault stop) o') :
    cur.EndsInStub fault ∨ o'.Fails := by
  cases h with
  | fails _ hf => exact .inr hf
  | unsettled _ hu =>
    cases hu with
    | stub _ _ hs => exact .inl hs

/-- Going on after a lexeme. -/
theorem lex_bind {f : Option Lexed → Cursor → Outcome α}
    (hnone : ∀ pos, Unsettled cur closed (f none ⟨pos, []⟩))
    (hgo : ∀ x mid, lex cur = .done (some x) mid →
      Continues mid more closed (f (some x) mid) (f (some x) (mid.extend more)))
    (hend : ∀ x pos, lex cur = .done (some x) ⟨pos, []⟩ → (∀ c, x.lexeme ≠ .closer c) →
      Unsettled cur closed (f (some x) ⟨pos, []⟩)) :
    Continues cur more closed ((lex cur).bind f) ((lex (cur.extend more)).bind f) := by
  cases hx : lex cur with
  | truncated stop => exact .unsettled _ (.truncated _ stop)
  | failed fault stop =>
    rcases lex_fails_extend hx more with hs | hf
    · exact .unsettled _ (.stub _ stop hs)
    · exact .fails (.failed fault stop) (hf.bind f)
  | done x mid =>
    cases x with
    | none =>
      obtain ⟨pos, rest⟩ := mid
      cases lex_none hx
      exact .unsettled _ (hnone pos)
    | some x =>
      -- More text changes only a lexeme that ends the text and is no closing delimiter.
      by_cases hsame : mid.rest ≠ [] ∨ ∃ c, x.lexeme = .closer c
      · rw [Outcome.bind_of_done (lex_extend hx hsame more)]
        exact (hgo x mid hx).of_reaches (lex_advances hx).reaches
      · obtain ⟨pos, rest⟩ := mid
        obtain ⟨hr, hc⟩ := not_or.1 hsame
        cases Decidable.not_not.1 hr
        exact .unsettled _ (hend x pos hx fun c hx => hc ⟨c, hx⟩)

end Continues

/-! ## At the end of a text -/

theorem closeTail_end (pos : Nat) : closeTail ⟨pos, []⟩ = .truncated pos := by
  unfold closeTail
  rw [Outcome.bind_of_done (skipBlanks_end rfl)]

theorem readItems_end (b : Bracket) (begun : Bool) (pos : Nat) :
    readItems b begun ⟨pos, []⟩ = .truncated pos := by
  rw [readItems_eq, Outcome.bind_of_done (lex_end pos)]

theorem readAfterDot_end (dot pos : Nat) : readAfterDot dot ⟨pos, []⟩ = .truncated pos := by
  rw [readAfterDot_eq, Outcome.bind_of_done (lex_end pos)]

/-- A form whose first lexeme ends the text may go on. -/
theorem readForm_end {cur : Cursor} {x : Lexed} {pos : Nat} (h : lex cur = .done (some x) ⟨pos, []⟩)
    (hc : ∀ c, x.lexeme ≠ .closer c) : Unsettled cur false (readForm x ⟨pos, []⟩) := by
  obtain ⟨s, lexeme⟩ := x
  rw [readForm_eq]
  cases lexeme with
  | closer c => exact absurd rfl (hc c)
  | dot => exact .stub _ _ (endsInStub_of_lex_dot h)
  | atom f => exact .ended _ pos
  | shorthand m =>
    dsimp only
    rw [Outcome.bind_of_done (lex_end pos)]
    exact .truncated _ pos
  | opener b =>
    dsimp only
    rw [readItems_end]
    exact .truncated _ pos

/-! ## Forms in a text that goes on -/

theorem closeTail_continues (cur : Cursor) (more : Text) :
    Continues cur more true (closeTail cur) (closeTail (cur.extend more)) := by
  unfold closeTail
  cases hs : skipBlanks cur with
  | truncated stop => exact .unsettled _ (.truncated _ stop)
  | failed fault stop =>
    rcases skipBlanks_fails_extend hs more with hstub | hf
    · exact .unsettled _ (.stub _ stop hstub)
    · exact .fails (.failed fault stop) (hf.bind _)
  | done _ mid =>
    have hreach := skipBlanks_from _ _ _ hs
    obtain ⟨pos, rest⟩ := mid
    cases rest with
    | nil => exact .unsettled _ (.truncated _ pos)
    | cons c rest =>
      by_cases hsign : c :: rest = [CodePoint.ofChar '#']
      · rw [hsign] at hreach ⊢
        exact .unsettled _ (.stub _ pos ⟨_, hreach, .sign⟩)
      · rw [Outcome.bind_of_done (skipBlanks_extend hs (List.cons_ne_nil c rest) hsign more)]
        dsimp only [Cursor.extend, Outcome.bind, List.cons_append]
        by_cases hc : c = ')'
        · rw [if_pos hc, if_pos hc]
          exact .again () ⟨pos + 1, rest⟩
        · rw [if_neg hc, if_neg hc]
          exact .fails (.failed _ _) (.failed _ _)

theorem Bracket.build_continues (b : Bracket) (start : Nat) (c : Contents) (next : Cursor)
    (more : Text) :
    Continues next more false (b.build start c next) (b.build start c (next.extend more)) := by
  unfold build
  cases b with
  | list =>
    dsimp only
    cases c.tail with
    | none => exact .again _ next
    | some t => exact .again _ next
  | vector kind => exact .again _ next
  | propertied =>
    dsimp only
    split
    · exact .again _ next
    · exact .fails (.failed _ _) (.failed _ _)

mutual

theorem readForm_continues (x : Lexed) (next : Cursor) (more : Text) :
    Continues next more false (readForm x next) (readForm x (next.extend more)) := by
  rw [readForm_eq, readForm_eq]
  cases hx : x.lexeme with
  | closer c => exact .fails (.failed _ _) (.failed _ _)
  | dot => exact .fails (.failed _ _) (.failed _ _)
  | atom f => exact .again _ next
  | shorthand m =>
    refine .lex_bind (fun pos => .truncated _ pos) (fun y mid h => ?_) fun y pos h hc => ?_
    · have hlt := (lex_advances h).length_lt
      exact (readForm_continues y mid more).map _
    · exact (readForm_end h hc).map _
  | opener b =>
    refine (readItems_continues b false next more).bind (readItems_from b false next)
      (fun c mid _ => b.build_continues x.start c mid more) nofun
termination_by 2 * next.rest.length + 1

theorem readItems_continues (b : Bracket) (begun : Bool) (cur : Cursor) (more : Text) :
    Continues cur more true (readItems b begun cur) (readItems b begun (cur.extend more)) := by
  rw [readItems_eq, readItems_eq]
  refine .lex_bind (fun pos => .truncated _ pos) (fun x mid h => ?_) fun x pos h hc => ?_
  · have hlt := (lex_advances h).length_lt
    have hform : Continues mid more true
        ((readForm x mid).bind fun p after => (readItems b true after).map (Contents.cons p))
        ((readForm x (mid.extend more)).bind fun p after => (readItems b true after).map (Contents.cons p)) := by
      refine (readForm_continues x mid more).bind (readForm_from x mid) ?_ ?_
      · intro p after hp
        have hle := (readForm_from x mid p after hp).length_le
        exact (readItems_continues b true after more).map _
      · intro _ p pos
        rw [readItems_end]
        exact .truncated _ pos
    dsimp only
    cases hx : x.lexeme with
    | closer c =>
      dsimp only
      by_cases hc : c = b.closer
      · rw [if_pos hc, if_pos hc]
        exact .again _ mid
      · rw [if_neg hc, if_neg hc]
        exact .fails (.failed _ _) (.failed _ _)
    | dot =>
      dsimp only
      by_cases hb : b = .list ∧ begun = true
      · rw [if_pos hb, if_pos hb]
        exact readAfterDot_continues x.start mid more
      · rw [if_neg hb, if_neg hb]
        exact .fails (.failed _ _) (.failed _ _)
    | atom f | shorthand m | opener b' => exact hform
  · have hform : Unsettled cur true ((readForm x ⟨pos, []⟩).bind fun p after =>
        (readItems b true after).map (Contents.cons p)) := by
      refine (readForm_end h hc).bind fun _ p pos => ?_
      rw [readItems_end]
      exact .truncated _ pos
    obtain ⟨s, lexeme⟩ := x
    cases lexeme with
    | closer c => exact absurd rfl (hc c)
    | dot =>
      dsimp only
      by_cases hb : b = .list ∧ begun = true
      · rw [if_pos hb, readAfterDot_end]
        exact .truncated _ pos
      · rw [if_neg hb]
        exact .stub _ _ (endsInStub_of_lex_dot h)
    | atom f | shorthand m | opener b' => exact hform
termination_by 2 * cur.rest.length

theorem readAfterDot_continues (dot : Nat) (cur : Cursor) (more : Text) :
    Continues cur more true (readAfterDot dot cur) (readAfterDot dot (cur.extend more)) := by
  rw [readAfterDot_eq, readAfterDot_eq]
  refine .lex_bind (fun pos => .truncated _ pos) (fun x mid h => ?_) fun x pos h hc => ?_
  · have hlt := (lex_advances h).length_lt
    dsimp only
    by_cases hx : x.lexeme.isParenthesis = true
    · rw [if_pos hx, if_pos hx]
      exact .fails (.failed _ _) (.failed _ _)
    · rw [if_neg hx, if_neg hx]
      refine (readForm_continues x mid more).bind (readForm_from x mid) ?_ ?_
      · intro p after _
        exact (closeTail_continues after more).map _
      · intro _ p pos
        rw [closeTail_end]
        exact .truncated _ pos
  · have hx : x.lexeme.isParenthesis = false := by
      cases hl : x.lexeme with
      | closer c => exact absurd hl (hc c)
      | _ => rfl
    simp only [hx, Bool.false_eq_true, if_false]
    refine (readForm_end h hc).bind fun _ p pos => ?_
    rw [closeTail_end]
    exact .truncated _ pos
termination_by 2 * cur.rest.length

end

/-! ## Whole texts -/

theorem nextForm_continues [CharacterNames] (cur : Cursor) (more : Text) :
    Continues cur more false (nextForm cur) (nextForm (cur.extend more)) := by
  unfold nextForm
  refine .lex_bind (fun pos => .ended none pos) (fun x mid _ => ?_) fun x pos h hc => ?_
  · refine (readForm_continues x mid more).bind (readForm_from x mid) ?_ ?_
    · intro p after _
      exact .again _ after
    · intro _ p pos
      exact .ended _ pos
  · exact (readForm_end h hc).bind fun _ p pos => .ended _ pos

theorem readForms_of_fails {cur : Cursor} (h : (nextForm cur).Fails) :
    ∃ halt, readForms cur = .error halt := by
  obtain ⟨fault, stop, hf⟩ := h
  refine ⟨⟨fault, stop⟩, ?_⟩
  rw [readForms.eq_def, hf]

/-- Reading that fails fails for good, or the text ends in a stub. -/
theorem readForms_fails_extend {cur : Cursor} {halt : Halt} (h : readForms cur = .error halt)
    (more : Text) :
    cur.EndsInStub halt.fault ∨ ∃ halt', readForms (cur.extend more) = .error halt' := by
  fun_induction readForms cur with
  | case1 | case3 | case4 => cases h
  | case2 cur p next hn halt' hr ih =>
    cases h
    have hcontinues := nextForm_continues cur more
    rw [hn] at hcontinues
    rcases hcontinues.of_done with hsame | hend
    · refine (ih hr).imp (fun hs => hs.of_reaches (nextForm_advances hn).reaches) ?_
      rintro ⟨halt', hfails⟩
      exact ⟨halt', by rw [readForms_of_nextForm hsame, hfails]; rfl⟩
    · -- Behind a form that ends the text nothing is left that could fail.
      rw [readForms_end hend] at hr
      cases hr
  | case5 cur fault stop hn =>
    cases h
    have hcontinues := nextForm_continues cur more
    rw [hn] at hcontinues
    exact hcontinues.of_failed.imp_right readForms_of_fails

end Reading

open Reading

section

variable {known : CharacterNames}

/-- The beginning of a text that can be read can be read as well, or it ends in a stub and
fails there. -/
theorem readAll_ok_or_stub {t p : Text} {forms : List Positioned} (h : readAll t = .ok forms)
    (hp : p <+: t) :
    (∃ fs, readAll p = .ok fs) ∨
      ∃ s fault, Stub s (p.drop s) fault ∧ readAll p = .error fault := by
  obtain ⟨more, rfl⟩ := hp
  rw [readAll_eq] at h ⊢
  cases hr : readForms (.ofText p 0) with
  | ok fs => exact .inl ⟨fs, rfl⟩
  | error halt =>
    right
    rcases readForms_fails_extend hr more with ⟨mid, hreach, hstub⟩ | ⟨halt', hfails⟩
    · have hmid : mid.rest = p.drop mid.pos := congrArg Cursor.rest hreach.eq_ofText
      rw [hmid] at hstub
      exact ⟨mid.pos, halt.fault, hstub, rfl⟩
    · have htext : (Cursor.ofText p 0).extend more = .ofText (p ++ more) 0 := rfl
      rw [htext] at hfails
      rw [hfails] at h
      cases h

end

open SomeNames

theorem readAll_ok_or_stub_radix :
    readAll (Text.of "(a . b) #24r1k") = .ok [⟨.dotted [.symbol (.named "a")] (.symbol (.named "b")),
      .ofNat 0 7, [⟨.named "a", 1, 1⟩, ⟨.named "b", 5, 1⟩]⟩, ⟨.int 44, .ofNat 8 14, []⟩] ∧
    (∃ fs, readAll (Text.of "(a . b) #24") = .ok fs) ∧
    ∃ s fault, Stub s ((Text.of "(a . b) #24r").drop s) fault ∧
      readAll (Text.of "(a . b) #24r") = .error fault := by
  have hwhole : readAll (Text.of "(a . b) #24r1k") =
      .ok [⟨.dotted [.symbol (.named "a")] (.symbol (.named "b")), .ofNat 0 7,
        [⟨.named "a", 1, 1⟩, ⟨.named "b", 5, 1⟩]⟩, ⟨.int 44, .ofNat 8 14, []⟩] := by
    decide +kernel
  have hreads : ∀ fault, readAll (Text.of "(a . b) #24") ≠ .error fault := by
    have hok : (readAll (Text.of "(a . b) #24")).isOk = true := by decide +kernel
    intro fault hf
    rw [hf] at hok
    cases hok
  have hfails : ∀ fs, readAll (Text.of "(a . b) #24r") ≠ .ok fs := by
    have hok : (readAll (Text.of "(a . b) #24r")).isOk = false := by decide +kernel
    intro fs hf
    rw [hf] at hok
    cases hok
  refine ⟨hwhole, ?_, ?_⟩
  · rcases readAll_ok_or_stub (p := Text.of "(a . b) #24") hwhole ⟨Text.of "r1k", rfl⟩ with
      hok | ⟨_, fault, _, hf⟩
    · exact hok
    · exact absurd hf (hreads fault)
  · rcases readAll_ok_or_stub (p := Text.of "(a . b) #24r") hwhole ⟨Text.of "1k", rfl⟩ with
      ⟨fs, hok⟩ | hstub
    · exact absurd hok (hfails fs)
    · exact hstub

/-- A block, a token that begins with a dot, a record, an integer of a radix and a comment
after the tail of a list can be read, and their beginnings cannot. -/
theorem readAll_fails_on_beginnings :
    (readAll (Text.of "#@5 xxxx(a)")).isOk = true ∧ Text.of "#@" <+: Text.of "#@5 xxxx(a)" ∧
      readAll (Text.of "#@") = .error (.malformed 0 .invalidSkip) ∧
    (readAll (Text.of ".a")).isOk = true ∧ readAll (Text.of ".") = .error (.malformed 0 .invalidDot) ∧
    (readAll (Text.of "#s(a)")).isOk = true ∧
      readAll (Text.of "#s") = .error (.malformed 0 (.invalidDispatch 's')) ∧
    (readAll (Text.of "#x-1")).isOk = true ∧
      readAll (Text.of "#x-") = .error (.malformed 0 (.invalidInteger 16 (Text.of "-"))) ∧
    (readAll (Text.of "(a . b #!c\n)")).isOk = true ∧
      readAll (Text.of "(a . b #") = .error (.malformed 7 .manyAfterDot) := by
  decide +kernel

end LispXref
