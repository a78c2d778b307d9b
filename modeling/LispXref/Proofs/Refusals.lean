-- Where a text is refused. Each reader is given the offsets between which its refusals lie,
-- some of which are remembered from the start of a token, an escape or a dot. Main statement:
-- a refusal names the file and a character that was not read yet, and the reader is left
-- there or behind it, but inside the text.
import LispXref.Proofs.Recording
import LispXref.Reading.SomeNames

namespace LispXref

namespace Reading

/-! ## Bounds -/

namespace Cursor

/-- The offset behind the last character. -/
def limit (cur : Cursor) : Nat := cur.pos + cur.rest.length

theorem Reaches.limit_eq {a b : Cursor} (h : a.Reaches b) : b.limit = a.limit := by
  obtain ⟨taken, hrest, hpos⟩ := h
  simp only [limit, hrest, hpos, List.length_append]
  omega

theorem Reaches.pos_le {a b : Cursor} (h : a.Reaches b) : a.pos ≤ b.pos := by
  obtain ⟨taken, _, hpos⟩ := h
  omega

theorem pos_le_limit (cur : Cursor) : cur.pos ≤ cur.limit := Nat.le_add_right _ _

theorem limit_ofText (text : Text) (pos : Nat) : (ofText text pos).limit = max pos text.length := by
  simp only [limit, ofText, List.length_drop]
  omega

end Cursor

/-- If the text is refused, then at an offset that is not before the first and before the
limit; and reading stopped at the offset or behind it, at the limit at most. -/
def Outcome.RefusesWithin {α : Type} (first limit : Nat) (o : Outcome α) : Prop :=
  ∀ offset reason stop, o = .failed (.malformed offset reason) stop →
    first ≤ offset ∧ offset < limit ∧ offset ≤ stop ∧ stop ≤ limit

namespace Outcome.RefusesWithin

variable {α β : Type} {first limit : Nat}

theorem done (a : α) (next : Cursor) : (Outcome.done a next).RefusesWithin first limit := nofun

theorem truncated (stop : Nat) : (Outcome.truncated stop : Outcome α).RefusesWithin first limit :=
  nofun

theorem numeral (digits : Text) (e : Numeral.Error) (stop : Nat) :
    (Outcome.failed (.numeral digits e) stop : Outcome α).RefusesWithin first limit := nofun

theorem malformed {offset : Nat} (reason : Reason) {stop : Nat} (hfirst : first ≤ offset)
    (hlimit : offset < limit) (hoffset : offset ≤ stop) (hstop : stop ≤ limit) :
    (Outcome.malformed offset reason stop : Outcome α).RefusesWithin first limit := by
  rintro _ _ _ ⟨⟩
  exact ⟨hfirst, hlimit, hoffset, hstop⟩

/-- A refusal at the start of what is read. -/
theorem malformed_first (reason : Reason) {stop : Nat} (hlimit : first < limit)
    (hfirst : first ≤ stop) (hstop : stop ≤ limit) :
    (Outcome.malformed first reason stop : Outcome α).RefusesWithin first limit :=
  .malformed reason (Nat.le_refl first) hlimit hfirst hstop

theorem mono {first' limit' : Nat} {o : Outcome α} (h : o.RefusesWithin first limit)
    (hfirst : first' ≤ first) (hlimit : limit ≤ limit') : o.RefusesWithin first' limit' := by
  intro offset reason stop ho
  have := h offset reason stop ho
  omega

/-- What is refused from a place on is refused from every place before it. -/
theorem of_reaches {a b : Cursor} {o : Outcome α} (h : o.RefusesWithin b.pos b.limit)
    (hab : a.Reaches b) : o.RefusesWithin a.pos a.limit :=
  h.mono hab.pos_le (Nat.le_of_eq hab.limit_eq)

theorem ite {p : Prop} [Decidable p] {a b : Outcome α} (ha : p → a.RefusesWithin first limit)
    (hb : ¬p → b.RefusesWithin first limit) : (if p then a else b).RefusesWithin first limit := by
  by_cases h : p
  · rw [if_pos h]
    exact ha h
  · rw [if_neg h]
    exact hb h

theorem map {o : Outcome α} (h : o.RefusesWithin first limit) (f : α → β) :
    (o.map f).RefusesWithin first limit := by
  intro offset reason stop ho
  cases o with
  | done a next => cases ho
  | truncated n => cases ho
  | failed fault n =>
    cases ho
    exact h _ _ _ rfl

theorem bind {o : Outcome α} {f : α → Cursor → Outcome β} (h : o.RefusesWithin first limit)
    (hf : ∀ a mid, o = .done a mid → (f a mid).RefusesWithin first limit) :
    (o.bind f).RefusesWithin first limit := by
  intro offset reason stop ho
  cases o with
  | done a mid => exact hf a mid rfl offset reason stop ho
  | truncated n => cases ho
  | failed fault n =>
    cases ho
    exact h _ _ _ rfl

end Outcome.RefusesWithin

open Outcome (RefusesWithin)

/-! ## Blanks -/

theorem skipBlock_refusesWithin (mark : Nat) (t : Text) :
    (skipBlock mark t).RefusesWithin mark (mark + 2 + t.length) := by
  unfold skipBlock
  dsimp only
  refine .ite (fun _ => ?_) fun _ => .ite (fun _ => .done _ _) fun _ => ?_
  · exact .malformed_first _ (by omega) (by omega) (by omega)
  · split
    · exact .numeral _ _ _
    · exact .done _ _

theorem skipBlanks_refusesWithin (cur : Cursor) :
    (skipBlanks cur).RefusesWithin cur.pos cur.limit := by
  fun_induction skipBlanks cur with
  | case1 | case4 | case9 | case10 => exact .done _ _
  | case7 => exact .truncated _
  | case2 cur c rest h _ ih => exact ih.of_reaches (Cursor.reaches_of_rest [c] h)
  | case3 cur rest h _ ih =>
    exact (ih.of_reaches (reaches_afterLine _ _)).of_reaches (Cursor.reaches_of_rest [_] h)
  | case5 cur rest _ _ _ h ih =>
    exact (ih.of_reaches (reaches_afterLine _ _)).of_reaches (Cursor.reaches_of_rest [_, _] h)
  | case6 cur rest next hb _ _ _ _ h ih =>
    exact (ih.of_reaches (skipBlock_from _ _ () next hb)).of_reaches
      (Cursor.reaches_of_rest [_, _] h)
  | case8 cur rest fault stop hb _ _ _ _ h =>
    rw [← hb]
    refine (skipBlock_refusesWithin cur.pos rest).mono (Nat.le_refl _) ?_
    simp only [Cursor.limit, h, List.length_cons]
    omega

/-! ## Tokens -/

theorem readToken_refusesWithin (pos : Nat) (t : Text) (first limit : Nat) :
    (readToken pos t).RefusesWithin first limit := by
  fun_induction readToken pos t with
  | case1 | case4 => exact .done _ _
  | case2 => exact .truncated _
  | case3 _ _ _ ih | case5 _ _ _ _ _ ih => exact ih.map _

theorem readAtom_refusesWithin (pos : Nat) (t : Text) (first limit : Nat) :
    (readAtom pos t).RefusesWithin first limit := by
  refine (readToken_refusesWithin pos t first limit).bind fun token next _ => ?_
  split
  · exact .done _ _
  · exact .numeral _ _ _

/-- An integer is refused at its mark, once its token is passed. -/
theorem readInteger_refusesWithin {start pos : Nat} (hstart : start < pos) (radix : Nat) (t : Text) :
    (readInteger start radix pos t).RefusesWithin start (pos + t.length) := by
  refine (readToken_refusesWithin pos t _ _).bind fun token next h => ?_
  have hreaches := readToken_from pos t token next h
  have hle : pos ≤ next.pos := hreaches.pos_le
  have hlimit : next.limit = pos + t.length := hreaches.limit_eq
  have hnext := next.pos_le_limit
  split
  · exact .done _ _
  · exact .malformed_first _ (by omega) (by omega) (by omega)

/-! ## Characters and strings -/

theorem readHex_refusesWithin {start pos : Nat} (hstart : start < pos) (t : Text) :
    (readHex start pos t).RefusesWithin start (pos + t.length) := by
  unfold readHex
  refine .ite (fun _ => .ite (fun _ => .truncated _) fun _ => ?_) fun _ => .done _ _
  exact .malformed_first _ (by omega) (by omega) (by omega)

theorem readExactHex_refusesWithin {start pos : Nat} (hstart : start < pos) (count : Nat) (t : Text) :
    (readExactHex start pos count t).RefusesWithin start (pos + t.length) := by
  have hdigits := codeDigits_length_le 16 count t
  unfold readExactHex
  refine .ite (fun _ => .done _ _) fun _ => .ite (fun _ => .truncated _) fun _ => ?_
  exact .malformed_first _ (by omega) (by omega) (by omega)

variable {known : CharacterNames}

/-- A name is refused where its escape starts. -/
theorem offset_of_namedCode {start offset : Nat} {name : Text} {reason : Reason}
    (h : namedCode start name = .error (.malformed offset reason)) : offset = start := by
  rcases namedCode_outcomes name with ⟨_, hcode⟩ | ⟨_, hfault⟩ | ⟨_, hfault⟩ | ⟨_, _, hfault⟩
  · rw [hcode] at h
    cases h
  · rw [hfault] at h
    cases h
    rfl
  all_goals
    rw [hfault] at h
    cases h

theorem readNamed_refusesWithin (start : Nat) (t : Text) :
    (readNamed start t).RefusesWithin start (start + 3 + t.length) := by
  unfold readNamed
  dsimp only
  split
  · exact .truncated _
  · rename_i c rest hd
    have hlength := congrArg List.length hd
    simp only [List.length_drop, List.length_cons] at hlength
    split
    · exact .done _ _
    · rename_i fault hf
      rintro offset reason stop ⟨⟩
      have hoffset := offset_of_namedCode hf
      omega

theorem readPlainEscape_refusesWithin [CharacterNames] (start : Nat) (c : CodePoint) (t : Text) :
    (readPlainEscape start c t).RefusesWithin start (start + 2 + t.length) := by
  have hstart : start < start + 2 := by omega
  unfold readPlainEscape
  refine .ite (fun _ => readHex_refusesWithin hstart t) fun _ => .ite (fun _ => .done _ _) fun _ =>
    .ite (fun _ => readExactHex_refusesWithin hstart 4 t) fun _ =>
    .ite (fun _ => readExactHex_refusesWithin hstart 8 t) fun _ => .ite (fun h => ?_) fun _ => .done _ _
  cases t with
  | nil => simp at h
  | cons b t =>
    refine (readNamed_refusesWithin start t).mono (Nat.le_refl _) ?_
    simp only [List.length_cons]
    omega

mutual

theorem readEscape_refusesWithin (start : Nat) (t : Text) :
    (readEscape start t).RefusesWithin start (start + 1 + t.length) := by
  match t with
  | [] => exact .truncated _
  | c :: rest =>
    have hlimit : start + 2 + rest.length = start + 1 + (c :: rest).length := by
      simp only [List.length_cons]
      omega
    rw [readEscape.eq_def, ← hlimit]
    have plain := readPlainEscape_refusesWithin start c rest
    dsimp only
    split
    · exact ((readModified_refusesWithin (start + 2) rest).map _).mono (by omega) (Nat.le_refl _)
    · split
      · rename_i m d body _
        split
        · refine ((readModified_refusesWithin (start + 3) body).map _).mono (by omega) ?_
          simp only [List.length_cons]
          omega
        · exact plain
      · exact plain

theorem readModified_refusesWithin (pos : Nat) (t : Text) :
    (readModified pos t).RefusesWithin pos (pos + t.length) := by
  match t with
  | [] => exact .truncated _
  | c :: rest =>
    rw [readModified]
    refine .ite (fun _ => ?_) fun _ => .done _ _
    refine (readEscape_refusesWithin pos rest).mono (Nat.le_refl _) ?_
    simp only [List.length_cons]
    omega

end

theorem readString_refusesWithin [CharacterNames] (cur : Cursor) :
    (readString cur).RefusesWithin cur.pos cur.limit := by
  fun_induction readString cur with
  | case1 | case4 | case7 => exact .truncated _
  | case2 => exact .done _ _
  | case3 cur c rest h _ _ ih => exact (ih.map _).of_reaches (Cursor.reaches_of_rest [c] h)
  | case5 cur c _ _ d rest h _ _ ih => exact ih.of_reaches (Cursor.reaches_of_rest [c, d] h)
  | case6 cur c _ _ d rest h _ code next he _ ih =>
    exact ((ih.map _).of_reaches (readEscape_from _ _ code next he)).of_reaches
      (Cursor.reaches_of_rest [c] h)
  | case8 cur c _ _ d rest h _ fault stop he _ =>
    rintro offset reason _ ⟨⟩
    have := readEscape_refusesWithin cur.pos (d :: rest) offset reason stop he
    simp only [Cursor.limit, h, List.length_cons] at this ⊢
    omega

theorem readCharacter_refusesWithin (start : Nat) (t : Text) :
    (readCharacter start t).RefusesWithin start (start + 1 + t.length) := by
  refine ((readModified_refusesWithin (start + 1) t).mono (by omega) (Nat.le_refl _)).bind
    fun code next h => ?_
  have hreaches := readModified_from (start + 1) t code next h
  have hle : start + 1 ≤ next.pos := hreaches.pos_le
  have hlimit : next.limit = start + 1 + t.length := hreaches.limit_eq
  have hnext := next.pos_le_limit
  split
  · exact .done _ _
  · refine .ite (fun _ => .done _ _) fun _ => ?_
    exact .malformed_first _ (by omega) (by omega) (by omega)

/-! ## Lexemes -/

theorem readRadix_refusesWithin (start : Nat) (t : Text) :
    (readRadix start t).RefusesWithin start (start + 1 + t.length) := by
  have refused : ∀ reason, (Outcome.malformed start reason start : Outcome Lexeme).RefusesWithin start
      (start + 1 + t.length) := fun reason =>
    .malformed_first reason (by omega) (by omega) (by omega)
  unfold readRadix
  dsimp only
  split
  · exact .truncated _
  · rename_i c rest hd
    refine .ite (fun _ => refused _) fun _ => ?_
    split
    · exact .numeral _ _ _
    · refine .ite (fun _ => refused _) fun _ => ?_
      have hlimit : start + 1 + (t.takeWhile CodePoint.isDigit).length + 1 + rest.length =
          start + 1 + t.length := (reaches_afterDigits (start + 1) hd).limit_eq
      exact (readInteger_refusesWithin (by omega) _ rest).mono (Nat.le_refl _) (Nat.le_of_eq hlimit)

theorem readBoolVector_refusesWithin (start : Nat) (t : Text) :
    (readBoolVector start t).RefusesWithin start (start + 2 + t.length) := by
  unfold readBoolVector
  dsimp only
  split
  · exact .truncated _
  · rename_i c rest hd
    refine .ite (fun _ => ?_) fun _ => ?_
    · exact .malformed_first _ (by omega) (by omega) (by omega)
    · have hstring := (readString_refusesWithin _).of_reaches (reaches_afterDigits (start + 2) hd)
      refine (hstring.mono (Nat.le_add_right start 2) (Nat.le_refl _)).bind fun data next _ => ?_
      split
      · exact .done _ _
      · exact .numeral _ _ _

theorem readDispatch_refusesWithin (start : Nat) (t : Text) :
    (readDispatch start t).RefusesWithin start (start + 1 + t.length) := by
  cases t with
  | nil => exact .truncated _
  | cons c rest =>
    have hlimit : start + 2 + rest.length = start + 1 + (c :: rest).length := by
      simp only [List.length_cons]
      omega
    have symbol : ∀ interned, (readSymbol (start + 2) interned rest).RefusesWithin start
        (start + 1 + (c :: rest).length) := fun _ => (readToken_refusesWithin _ _ _ _).map _
    unfold readDispatch
    refine .ite (fun _ => .done _ _) fun _ => .ite (fun _ => .done _ _) fun _ =>
      .ite (fun _ => .done _ _) fun _ => .ite (fun _ => .done _ _) fun _ => .ite (fun _ => ?_) fun _ =>
      .ite (fun _ => symbol _) fun _ => .ite (fun _ => .done _ _) fun _ => .ite (fun _ => symbol _)
      fun _ => ?_
    · exact (readBoolVector_refusesWithin start rest).mono (Nat.le_refl _) (Nat.le_of_eq hlimit)
    · cases radixOf? c with
      | some radix =>
        rw [← hlimit]
        exact readInteger_refusesWithin (by omega) radix rest
      | none =>
        refine .ite (fun _ => readRadix_refusesWithin start (c :: rest)) fun _ => ?_
        exact .malformed_first _ (by omega) (by omega) (by omega)

theorem lexemeAt_refusesWithin (pos : Nat) (c : CodePoint) (rest : Text) :
    (lexemeAt pos c rest).RefusesWithin pos (pos + 1 + rest.length) := by
  have string : (readString ⟨pos + 1, rest⟩).RefusesWithin pos (pos + 1 + rest.length) :=
    (readString_refusesWithin ⟨pos + 1, rest⟩).mono (Nat.le_add_right pos 1) (Nat.le_refl _)
  unfold lexemeAt
  exact .ite (fun _ => .done _ _) fun _ => .ite (fun _ => .done _ _) fun _ =>
    .ite (fun _ => .done _ _) fun _ => .ite (fun _ => string.map _) fun _ =>
    .ite (fun _ => (readCharacter_refusesWithin pos rest).map _) fun _ =>
    .ite (fun _ => .done _ _) fun _ => .ite (fun _ => .done _ _) fun _ =>
    .ite (fun _ => .ite (fun _ => .done _ _) fun _ => .done _ _) fun _ =>
    .ite (fun _ => readDispatch_refusesWithin pos rest) fun _ =>
    .ite (fun _ => .done _ _) fun _ => readAtom_refusesWithin _ _ _ _

theorem lex_refusesWithin [CharacterNames] (cur : Cursor) :
    (lex cur).RefusesWithin cur.pos cur.limit := by
  refine (skipBlanks_refusesWithin cur).bind fun _ mid h => ?_
  split
  · exact .done _ _
  · rename_i c rest hrest
    refine RefusesWithin.of_reaches ?_ (skipBlanks_from cur () mid h)
    refine ((lexemeAt_refusesWithin mid.pos c rest).map _).mono (Nat.le_refl _) ?_
    simp only [Cursor.limit, hrest, List.length_cons]
    omega

/-- A lexeme starts where reading stood or behind it, and before the place where reading
goes on. -/
theorem lex_bounds {cur next : Cursor} {x : Lexed} (h : lex cur = .done (some x) next) :
    cur.pos ≤ x.start ∧ x.start < next.pos ∧ next.limit = cur.limit := by
  have hlimit := (lex_from cur _ next h).limit_eq
  obtain ⟨_, mid, hmid, hx⟩ := Outcome.bind_eq_done.1 h
  have hle := (skipBlanks_from cur () mid hmid).pos_le
  split at hx
  · cases hx
  · rename_i c rest hrest
    obtain ⟨hb, hs⟩ := skipBlanks_stop cur mid hmid c rest hrest
    obtain ⟨y, hy, hstart⟩ := Outcome.map_eq_done.1 hx
    obtain ⟨taken, hne, _, hpos⟩ := lexemeAt_after mid.pos c rest hb hs y next hy
    have hlt := List.length_pos_iff.2 hne
    cases hstart
    dsimp only at hpos ⊢
    omega

/-! ## Forms -/

theorem Bracket.build_refusesWithin (b : Bracket) {start : Nat} (c : Contents) {next : Cursor}
    (hstart : start < next.pos) : (b.build start c next).RefusesWithin start next.limit := by
  have hnext := next.pos_le_limit
  unfold build
  split
  · split
    · exact .done _ _
    · exact .done _ _
  · exact .done _ _
  · split
    · exact .done _ _
    · exact .malformed_first _ (by omega) (by omega) hnext

theorem closeTail_refusesWithin (cur : Cursor) : (closeTail cur).RefusesWithin cur.pos cur.limit := by
  refine (skipBlanks_refusesWithin cur).bind fun _ mid h => ?_
  split
  · exact .truncated _
  · rename_i c rest hrest
    have hlt : mid.pos < mid.limit := by
      simp only [Cursor.limit, hrest, List.length_cons]
      omega
    refine RefusesWithin.of_reaches ?_ (skipBlanks_from cur () mid h)
    refine .ite (fun _ => .done _ _) fun _ => ?_
    exact .malformed_first _ hlt (Nat.le_refl _) (Nat.le_of_lt hlt)

mutual

/-- A form is refused at its first character or behind it. -/
theorem readForm_refusesWithin (x : Lexed) (next : Cursor) (hx : x.start < next.pos) :
    (readForm x next).RefusesWithin x.start next.limit := by
  have hnext := next.pos_le_limit
  have refused : ∀ reason, (Outcome.malformed x.start reason x.start : Outcome Piece).RefusesWithin
      x.start next.limit := fun reason =>
    .malformed_first reason (by omega) (by omega) (by omega)
  rw [readForm_eq]
  split
  · exact refused _
  · exact refused _
  · exact .done _ _
  · refine ((lex_refusesWithin next).mono (Nat.le_of_lt hx) (Nat.le_refl _)).bind fun y mid h => ?_
    cases y with
    | none => exact .truncated _
    | some y =>
      have hlt := (lex_advances h).length_lt
      obtain ⟨hstart, hmid, hlimit⟩ := lex_bounds h
      exact ((readForm_refusesWithin y mid hmid).map _).mono (by omega) (Nat.le_of_eq hlimit)
  · rename_i b _
    refine ((readItems_refusesWithin b false next).mono (Nat.le_of_lt hx) (Nat.le_refl _)).bind
      fun c mid h => ?_
    have hreaches := readItems_from b false next c mid h
    have hmid := hreaches.pos_le
    rw [← hreaches.limit_eq]
    exact b.build_refusesWithin c (by omega)
termination_by 2 * next.rest.length + 1

theorem readItems_refusesWithin (b : Bracket) (begun : Bool) (cur : Cursor) :
    (readItems b begun cur).RefusesWithin cur.pos cur.limit := by
  rw [readItems_eq]
  refine (lex_refusesWithin cur).bind fun x mid h => ?_
  cases x with
  | none => exact .truncated _
  | some x =>
    have hlt := (lex_advances h).length_lt
    obtain ⟨hstart, hmid, hlimit⟩ := lex_bounds h
    have hle := mid.pos_le_limit
    have refused : ∀ reason, (Outcome.malformed x.start reason x.start : Outcome Contents).RefusesWithin
        cur.pos cur.limit := fun reason => .malformed reason hstart (by omega) (Nat.le_refl _) (by omega)
    dsimp only
    split
    · exact .ite (fun _ => .done _ _) fun _ => refused _
    · refine .ite (fun _ => ?_) fun _ => refused _
      exact (readAfterDot_refusesWithin x.start mid hmid).mono hstart (Nat.le_of_eq hlimit)
    · refine ((readForm_refusesWithin x mid hmid).mono hstart (Nat.le_of_eq hlimit)).bind
        fun p after hp => ?_
      have hreaches := readForm_from x mid p after hp
      have hshorter := hreaches.length_le
      exact ((readItems_refusesWithin b true after).map _).of_reaches
        ((lex_advances h).reaches.trans hreaches)
termination_by 2 * cur.rest.length

/-- What follows a dot is refused at the dot or behind it. -/
theorem readAfterDot_refusesWithin (dot : Nat) (cur : Cursor) (hdot : dot < cur.pos) :
    (readAfterDot dot cur).RefusesWithin dot cur.limit := by
  rw [readAfterDot_eq]
  refine ((lex_refusesWithin cur).mono (Nat.le_of_lt hdot) (Nat.le_refl _)).bind fun x mid h => ?_
  cases x with
  | none => exact .truncated _
  | some x =>
    have hlt := (lex_advances h).length_lt
    obtain ⟨hstart, hmid, hlimit⟩ := lex_bounds h
    have hle := mid.pos_le_limit
    dsimp only
    refine .ite (fun _ => ?_) fun _ => ?_
    · exact .malformed_first _ (by omega) (by omega) (by omega)
    · refine ((readForm_refusesWithin x mid hmid).mono (by omega) (Nat.le_of_eq hlimit)).bind
        fun p after hp => ?_
      have hreaches := (lex_advances h).reaches.trans (readForm_from x mid p after hp)
      have hclose := ((closeTail_refusesWithin after).map fun _ => Contents.ofTail p).of_reaches hreaches
      exact hclose.mono (Nat.le_of_lt hdot) (Nat.le_refl _)
termination_by 2 * cur.rest.length

end

/-! ## Texts -/

theorem nextForm_refusesWithin (cur : Cursor) : (nextForm cur).RefusesWithin cur.pos cur.limit := by
  refine (lex_refusesWithin cur).bind fun x next h => ?_
  cases x with
  | none => exact .done _ _
  | some x =>
    obtain ⟨hstart, hnext, hlimit⟩ := lex_bounds h
    refine ((readForm_refusesWithin x next hnext).mono hstart (Nat.le_of_eq hlimit)).bind ?_
    exact fun p after _ => .done _ _

theorem scanExpression_refusesWithin [CharacterNames] (x : Option Lexed) (next : Cursor)
    {cur : Cursor} (h : lex cur = .done x next) : (scanExpression x next).RefusesWithin cur.pos cur.limit := by
  cases x with
  | none => exact .done _ _
  | some x =>
    obtain ⟨hstart, hnext, hlimit⟩ := lex_bounds h
    unfold scanExpression
    dsimp only
    split
    · exact .done _ _
    · refine ((readForm_refusesWithin x next hnext).mono hstart (Nat.le_of_eq hlimit)).bind ?_
      exact fun p after _ => .done _ _

theorem scan_refusesWithin (cur : Cursor) : (scan cur).RefusesWithin cur.pos cur.limit := by
  refine (lex_refusesWithin cur).bind fun x next h => ?_
  split
  · have hnext := (lex_refusesWithin next).bind fun y mid hy => scanExpression_refusesWithin y mid hy
    exact hnext.of_reaches (lex_from cur _ next h)
  · exact scanExpression_refusesWithin x next h

/-- A refusal from an offset on lies in the text. -/
theorem Outcome.RefusesWithin.of_text {α : Type} {text : Text} {pos : Nat} {o : Outcome α}
    (h : o.RefusesWithin (Cursor.ofText text pos).pos (Cursor.ofText text pos).limit) :
    o.RefusesWithin pos text.length := by
  intro offset reason stop ho
  have hbounds := h offset reason stop ho
  rw [Cursor.limit_ofText] at hbounds
  dsimp only [Cursor.ofText] at hbounds
  omega

/-! ## Readers -/

namespace Reader

/-- Requests for a form, one after the other, are answered with forms. -/
inductive Reads [CharacterNames] : Reader → List Positioned → Reader → Prop
  | nil (r : Reader) : Reads r [] r
  | cons {r mid last : Reader} {p : Positioned} {forms : List Positioned} :
      r.readNext = (.ok (some p), mid) → Reads mid forms last → Reads r (p :: forms) last

/-- After a form the reader stands where the form ends. -/
theorem readNext_stop {r next : Reader} {p : Positioned} (h : r.readNext = (.ok (some p), next)) :
    next.text = r.text ∧ next.path = r.path ∧ p.span.stop = next.pos := by
  rcases r.readNext_cases with ⟨q, cur, hnext, table, hread⟩ | ⟨_, _, _, hread⟩ | ⟨_, _, _, _, hread⟩
  · cases h.symm.trans hread
    refine ⟨rfl, rfl, ?_⟩
    obtain ⟨x, mid, hx, hp⟩ := Outcome.bind_eq_done.1 hnext
    cases x with
    | none => cases hp
    | some x =>
      obtain ⟨piece, after, _, hdone⟩ := Outcome.bind_eq_done.1 hp
      cases hdone
      rfl
  · cases h.symm.trans hread
  · cases h.symm.trans hread

/-- After forms the reader stands where the last of them ends. -/
theorem Reads.stop {r last : Reader} {forms : List Positioned} (h : r.Reads forms last) :
    last.text = r.text ∧ last.path = r.path ∧
      forms.getLast?.elim (r.pos : Int) (fun p => p.span.stop) = last.pos := by
  induction h with
  | nil r => exact ⟨rfl, rfl, rfl⟩
  | @cons r mid last p forms hread hforms ih =>
    obtain ⟨htext, hpath, hstop⟩ := readNext_stop hread
    obtain ⟨htext', hpath', hlast⟩ := ih
    refine ⟨htext'.trans htext, hpath'.trans hpath, ?_⟩
    rw [← hlast, ← hstop]
    cases forms with
    | nil => rfl
    | cons q forms => rfl

/-- Reading on fails at the request that comes after the forms that are complete. -/
theorem reads_of_readOn_error {r left : Reader} {f : FileFault} (h : r.readOn = (.error f, left)) :
    ∃ forms last, r.Reads forms last ∧ last.readNext = (.error f, left) := by
  fun_induction readOn r with
  | case1 r p next hread others ih =>
    rcases hothers : next.readOn with ⟨answer, after⟩
    dsimp only [others] at h
    rw [hothers] at h
    cases answer with
    | ok forms => cases h
    | error e =>
      cases h
      obtain ⟨forms, last, hforms, hlast⟩ := ih hothers
      exact ⟨p :: forms, last, .cons hread hforms, hlast⟩
  | case2 r next hread => cases h
  | case3 r f' next hread =>
    cases h
    exact ⟨[], r, .nil r, hread⟩

theorem readNext_refuses {r left : Reader} {path : Text} {offset : Nat} {reason : Reason}
    (h : r.readNext = (.error ⟨path, .malformed offset reason⟩, left)) :
    path = r.path ∧ r.pos ≤ offset ∧ offset < r.text.length ∧ offset ≤ left.pos ∧
      left.pos ≤ r.text.length := by
  rcases r.readNext_cases with ⟨_, _, _, _, hread⟩ | ⟨_, _, _, hread⟩ | ⟨fault, stop, hnext, table, hread⟩
  · cases h.symm.trans hread
  · cases h.symm.trans hread
  · cases h.symm.trans hread
    exact ⟨rfl, (nextForm_refusesWithin _).of_text offset reason _ hnext⟩

theorem scan_refuses {r left : Reader} {pos : Nat} {limit : Option Int} {path : Text} {offset : Nat}
    {reason : Reason} (h : r.scan pos limit = (.error ⟨path, .malformed offset reason⟩, left)) :
    path = r.path ∧ pos ≤ offset ∧ offset < r.text.length ∧ offset ≤ left.pos ∧
      left.pos ≤ r.text.length := by
  obtain ⟨hanswer, hsession, _⟩ := r.scan_shows pos limit
  rw [h] at hanswer hsession
  unfold Session.scan at hanswer hsession
  cases hscan : Reading.scan (.ofText r.session.text pos) with
  | done span next =>
    rw [hscan] at hanswer
    cases hanswer
  | truncated stop =>
    rw [hscan] at hanswer
    cases hanswer
  | failed fault stop =>
    rw [hscan] at hanswer hsession
    cases hanswer
    have hstop : left.pos = stop := congrArg Session.pos hsession
    rw [hstop]
    exact ⟨rfl, (scan_refusesWithin _).of_text offset reason stop hscan⟩

end Reader

end Reading

open Reading

/-! ## Refusals -/

section

variable {known : CharacterNames}

/-- A refusal is reported under the path of the reader and at an offset of the text. If the
whole text was asked for, the offset is not before the end of the last form that was read
before; if a scan was asked for, it is not before the offset of the scan. And the reader is
left at the offset or behind it, not behind the end of the text. -/
theorem refusal_offset_unread (r left : Reader) (path : Text) (offset : Nat) (reason : Reason) :
    (r.readAll = (.error ⟨path, .malformed offset reason⟩, left) →
      path = r.path ∧
      (∃ forms last, (r.seek 0).Reads forms last ∧
        last.readNext = (.error ⟨path, .malformed offset reason⟩, left) ∧
        forms.getLast?.elim 0 (fun p => p.span.stop) ≤ offset) ∧
      offset < r.text.length ∧ offset ≤ left.pos ∧ left.pos ≤ r.text.length) ∧
    ∀ pos limit, r.scan pos limit = (.error ⟨path, .malformed offset reason⟩, left) →
      path = r.path ∧ pos ≤ offset ∧
      offset < r.text.length ∧ offset ≤ left.pos ∧ left.pos ≤ r.text.length := by
  refine ⟨fun h => ?_, fun pos limit h => Reader.scan_refuses h⟩
  obtain ⟨forms, last, hforms, hlast⟩ := Reader.reads_of_readOn_error h
  obtain ⟨htext, hpath, hstop⟩ := hforms.stop
  obtain ⟨hsame, hle, hbounds⟩ := Reader.readNext_refuses hlast
  rw [htext] at hbounds
  refine ⟨hsame.trans hpath, ⟨forms, last, hforms, hlast, ?_⟩, hbounds⟩
  rw [show forms.getLast?.elim (0 : Int) (fun p => p.span.stop) = last.pos from hstop]
  exact_mod_cast hle

end

open SomeNames

/-- A list without a tail is refused at its dot, two characters before reading stopped. -/
theorem refusal_offset_unread_dot :
    let r := Reader.ofText (Text.of "a (b . )") (Text.of "a.el")
    let f : FileFault := ⟨Text.of "a.el", .malformed 5 .nothingAfterDot⟩
    (∃ left, r.readAll = (.error f, left) ∧
      (∃ forms last, (r.seek 0).Reads forms last ∧ last.readNext = (.error f, left) ∧
        forms.getLast?.elim 0 (fun p => p.span.stop) ≤ 5) ∧
      5 < r.text.length ∧ 5 ≤ left.pos ∧ left.pos ≤ r.text.length) ∧
    ∃ left, r.scan 1 none = (.error f, left) ∧ 1 ≤ 5 ∧
      5 < r.text.length ∧ 5 ≤ left.pos ∧ left.pos ≤ r.text.length := by
  intro r f
  have hall : r.readAll = (.error f, ⟨r.text, r.path, 7, [⟨.named "b", 3, 1⟩]⟩) := by decide +kernel
  have hscan : r.scan 1 none = (.error f, r.seek 7) := by decide +kernel
  obtain ⟨_, hforms, hbounds⟩ := (refusal_offset_unread r _ _ _ _).1 hall
  obtain ⟨_, hpos, hbounds'⟩ := (refusal_offset_unread r _ _ _ _).2 1 none hscan
  exact ⟨⟨_, hall, by exact_mod_cast hforms, hbounds⟩, _, hscan, hpos, hbounds'⟩

end LispXref
