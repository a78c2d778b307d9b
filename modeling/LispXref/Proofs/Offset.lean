-- Reading does not depend on where a text begins. Main statement: read from an offset
-- further on, a text gives the same forms further on, and if it cannot be read, the
-- same fault further on.
import LispXref.Proofs.Carry

namespace LispXref

/-- A span further on in the text. -/
theorem Span.shift_ofNat (s e d : Nat) :
    (Span.ofNat s e).shift d = Span.ofNat (s + d) (e + d) := rfl

namespace Reading

/-! ## Moving on -/

/-- The same place with `d` more characters before it. -/
def Cursor.shift (d : Nat) (c : Cursor) : Cursor := ⟨c.pos + d, c.rest⟩

theorem Cursor.shift_mk (d pos : Nat) (rest : Text) :
    Cursor.shift d ⟨pos, rest⟩ = ⟨pos + d, rest⟩ := rfl

/-- The same fault with `d` more characters before it. -/
def Fault.shift (d : Nat) : Fault → Fault
  | .malformed offset reason => .malformed (offset + d) reason
  | .numeral digits error => .numeral digits error
  | .namedSequence length => .namedSequence length
  | .unencodableName offset surrogates => .unencodableName offset surrogates

/-- The same outcome with `d` more characters before it. -/
def Outcome.shift {α : Type} (d : Nat) : Outcome α → Outcome α
  | .done value next => .done value (next.shift d)
  | .truncated stop => .truncated (stop + d)
  | .failed fault stop => .failed (fault.shift d) (stop + d)

namespace Outcome

variable {α β : Type} (d : Nat)

theorem shift_map (o : Outcome α) (f : α → β) : (o.map f).shift d = (o.shift d).map f := by
  cases o <;> rfl

theorem shift_ite {p : Prop} [Decidable p] (a b : Outcome α) :
    (if p then a else b).shift d = if p then a.shift d else b.shift d := by
  split <;> rfl

/-- Going on after a value, further on. -/
theorem shift_bind {o : Outcome α} {f g : α → Cursor → Outcome β}
    (h : ∀ a mid, g a (mid.shift d) = (f a mid).shift d) :
    (o.shift d).bind g = (o.bind f).shift d := by
  cases o with
  | done a mid => exact h a mid
  | truncated stop => rfl
  | failed fault stop => rfl

theorem map_bind {γ : Type} (o : Outcome α) (f : α → Cursor → Outcome β) (m : β → γ) :
    (o.bind f).map m = o.bind fun a mid => (f a mid).map m := by
  cases o <;> rfl

theorem map_map {γ : Type} (o : Outcome α) (f : α → β) (g : β → γ) :
    (o.map f).map g = o.map fun a => g (f a) := by
  cases o <;> rfl

/-- Going on after a value that has moved on itself. -/
theorem shift_map_bind {γ δ : Type} {o : Outcome α} {m : α → β} {m' : γ → δ}
    {f : α → Cursor → Outcome γ} {g : β → Cursor → Outcome δ}
    (h : ∀ a mid, o = .done a mid → g (m a) (mid.shift d) = ((f a mid).shift d).map m') :
    ((o.shift d).map m).bind g = ((o.bind f).shift d).map m' := by
  cases o with
  | done a mid => exact h a mid rfl
  | truncated stop => rfl
  | failed fault stop => rfl

theorem done_eq {a : α} {p p' : Nat} {rest : Text} (h : p' = p + d) :
    Outcome.done a ⟨p', rest⟩ = (Outcome.done a ⟨p, rest⟩).shift d := by
  rw [h]
  rfl

end Outcome

/-! ## Blanks -/

theorem afterLine_shift (d pos : Nat) (t : Text) :
    afterLine (pos + d) t = (afterLine pos t).shift d := by
  induction t generalizing pos with
  | nil => rfl
  | cons c t ih =>
    unfold afterLine
    split
    · rw [Nat.add_right_comm]
      rfl
    · rw [Nat.add_right_comm, ih]

theorem skipBlock_shift (d mark : Nat) (t : Text) :
    skipBlock (mark + d) t = (skipBlock mark t).shift d := by
  unfold skipBlock
  dsimp only
  generalize t.takeWhile CodePoint.isDigit = digits
  simp only [Outcome.shift_ite]
  split
  · rfl
  · split
    · exact Outcome.done_eq d (by omega)
    · cases Numeral.parse 10 digits with
      | error e => rfl
      | ok n => exact Outcome.done_eq d (by omega)

theorem skipBlanks_shift (d : Nat) (cur : Cursor) :
    skipBlanks (cur.shift d) = (skipBlanks cur).shift d := by
  fun_induction skipBlanks cur with
  | case1 cur hr =>
    rw [skipBlanks_end (by exact hr)]
    rfl
  | case2 cur c rest hr hb ih =>
    obtain ⟨pos, _⟩ := cur
    cases hr
    rw [← ih, Cursor.shift, skipBlanks_blank _ _ hb, Nat.add_right_comm]
    rfl
  | case3 cur rest hr _ ih =>
    obtain ⟨pos, _⟩ := cur
    cases hr
    rw [← ih, Cursor.shift, skipBlanks_comment, Nat.add_right_comm, afterLine_shift]
  | case5 cur rest _ _ _ hr ih =>
    obtain ⟨pos, _⟩ := cur
    cases hr
    rw [← ih, Cursor.shift, skipBlanks_line, Nat.add_right_comm, afterLine_shift]
  | case6 cur rest next hs _ _ _ _ hr ih =>
    obtain ⟨pos, _⟩ := cur
    cases hr
    rw [← ih, Cursor.shift, skipBlanks_block, skipBlock_shift, hs]
    rfl
  | case7 cur rest stop hs _ _ _ _ hr =>
    obtain ⟨pos, _⟩ := cur
    cases hr
    rw [Cursor.shift, skipBlanks_block, skipBlock_shift, hs]
    rfl
  | case8 cur rest fault stop hs _ _ _ _ hr =>
    obtain ⟨pos, _⟩ := cur
    cases hr
    rw [Cursor.shift, skipBlanks_block, skipBlock_shift, hs]
    rfl
  | case4 cur hb hc _ hr =>
    obtain ⟨pos, _⟩ := cur
    cases hr
    rw [skipBlanks.eq_def]
    simp only [Cursor.shift, hb, hc, if_false, if_true]
    rfl
  | case9 cur c rest hne hna hb hc _ hr =>
    obtain ⟨pos, _⟩ := cur
    cases hr
    rw [skipBlanks.eq_def]
    simp only [Cursor.shift, hb, hc, hne, hna, if_false, if_true]
    rfl
  | case10 cur c rest hr hb hc hh =>
    obtain ⟨pos, _⟩ := cur
    cases hr
    rw [skipBlanks.eq_def]
    simp only [Cursor.shift, hb, hc, hh, if_false]
    rfl

/-! ## Tokens -/

theorem readToken_shift (d pos : Nat) (t : Text) :
    readToken (pos + d) t = (readToken pos t).shift d := by
  fun_induction readToken pos t with
  | case1 => rfl
  | case2 pos => rfl
  | case3 pos e rest ih =>
    rw [readToken_escaped, Nat.add_right_comm, ih, Outcome.shift_map]
  | case4 pos c rest hc hs =>
    have ha : standsAlone (c :: rest) = true := hs
    rw [readToken_of_standsAlone _ ha]
    rfl
  | case5 pos c rest hc hs ih =>
    rw [readToken_plain _ _ hc (by simpa using hs), Nat.add_right_comm, ih, Outcome.shift_map]

theorem readAtom_shift (d pos : Nat) (t : Text) :
    readAtom (pos + d) t = (readAtom pos t).shift d := by
  unfold readAtom
  rw [readToken_shift]
  refine Outcome.shift_bind d fun token next => ?_
  cases token.form <;> rfl

theorem readSymbol_shift (d pos : Nat) (interned : Bool) (t : Text) :
    readSymbol (pos + d) interned t = (readSymbol pos interned t).shift d := by
  unfold readSymbol
  rw [readToken_shift, Outcome.shift_map]

theorem readInteger_shift (d start radix pos : Nat) (t : Text) :
    readInteger (start + d) radix (pos + d) t = (readInteger start radix pos t).shift d := by
  unfold readInteger
  rw [readToken_shift]
  refine Outcome.shift_bind d fun token next => ?_
  cases Numeral.parse radix token.name <;> rfl

/-! ## Characters and strings -/

theorem readDigits_shift (d pos base : Nat) (digits t : Text) :
    readDigits (pos + d) base digits t = (readDigits pos base digits t).shift d :=
  Outcome.done_eq d (by omega)

theorem readHex_shift (d start pos : Nat) (t : Text) :
    readHex (start + d) (pos + d) t = (readHex start pos t).shift d := by
  unfold readHex
  dsimp only
  simp only [Outcome.shift_ite, readDigits_shift]
  rfl

theorem readExactHex_shift (d start pos count : Nat) (t : Text) :
    readExactHex (start + d) (pos + d) count t = (readExactHex start pos count t).shift d := by
  unfold readExactHex
  dsimp only
  simp only [Outcome.shift_ite, readDigits_shift, Nat.add_right_comm pos d]
  rfl

variable {known : CharacterNames}

theorem namedCode_shift (d start : Nat) (name : Text) :
    namedCode (start + d) name = (namedCode start name).mapError (.shift d) := by
  rcases namedCode_outcomes name with ⟨_, h⟩ | ⟨_, h⟩ | ⟨_, h⟩ | ⟨_, _, h⟩
  all_goals
    simp only [h]
    rfl

theorem readNamed_shift (d start : Nat) (t : Text) :
    readNamed (start + d) t = (readNamed start t).shift d := by
  unfold readNamed
  dsimp only
  generalize t.takeWhile (· ≠ CodePoint.ofChar '\x7d') = name
  cases t.drop name.length with
  | nil =>
    simp only [Nat.add_right_comm start d]
    rfl
  | cons c rest =>
    simp only [namedCode_shift]
    cases namedCode start name with
    | ok code => exact Outcome.done_eq d (by omega)
    | error fault =>
      simp only [Nat.add_right_comm _ d]
      rfl

theorem readPlainEscape_shift (d start : Nat) (c : CodePoint) (t : Text) :
    readPlainEscape (start + d) c t = (readPlainEscape start c t).shift d := by
  unfold readPlainEscape
  simp only [Outcome.shift_ite, Nat.add_right_comm start d, readHex_shift, readDigits_shift,
    readExactHex_shift, readNamed_shift]
  rfl

mutual

theorem readEscape_shift (d start : Nat) (t : Text) :
    readEscape (start + d) t = (readEscape start t).shift d := by
  match t with
  | [] =>
    rw [readEscape, Nat.add_right_comm]
    rfl
  | c :: rest =>
    by_cases hc : c = '^'
    · subst hc
      rw [readEscape_control, readEscape_control, Outcome.shift_map, Nat.add_right_comm,
        readModified_shift d (start + 2) rest]
    · cases hm : Modifier.ofLetter? c with
      | none =>
        rw [readEscape_plain _ hc (.inl hm), readEscape_plain _ hc (.inl hm), readPlainEscape_shift]
      | some m =>
        by_cases hd : rest.head? = some (CodePoint.ofChar '-')
        · cases rest with
          | nil => cases hd
          | cons e body =>
            cases hd
            rw [readEscape_modifier _ _ hc hm, readEscape_modifier _ _ hc hm, Outcome.shift_map,
              Nat.add_right_comm, readModified_shift d (start + 3) body]
        · rw [readEscape_plain _ hc (.inr hd), readEscape_plain _ hc (.inr hd),
            readPlainEscape_shift]

theorem readModified_shift (d pos : Nat) (t : Text) :
    readModified (pos + d) t = (readModified pos t).shift d := by
  match t with
  | [] => rfl
  | c :: rest =>
    rw [readModified, readModified, Outcome.shift_ite, readEscape_shift d pos rest,
      Nat.add_right_comm]
    rfl

end

theorem readString_shift (d : Nat) (cur : Cursor) :
    readString (cur.shift d) = (readString cur).shift d := by
  fun_induction readString cur with
  | case1 cur hr =>
    obtain ⟨pos, _⟩ := cur
    cases hr
    rw [readString.eq_def]
    rfl
  | case2 cur rest hr =>
    obtain ⟨pos, _⟩ := cur
    cases hr
    rw [readString.eq_def]
    simp only [Cursor.shift, if_true]
    exact Outcome.done_eq d (by omega)
  | case3 cur c rest hr hq hb ih =>
    obtain ⟨pos, _⟩ := cur
    cases hr
    rw [Outcome.shift_map, ← ih, readString.eq_def]
    simp only [Cursor.shift, hq, hb, if_false, if_true, not_false_eq_true, ne_eq, Nat.add_right_comm pos d]
  | case4 cur c hq hb hr =>
    obtain ⟨pos, _⟩ := cur
    cases hr
    rw [readString.eq_def]
    simp only [Cursor.shift, hq, hb, if_false]
    rfl
  | case5 cur c hq hb e rest hr hd _ ih =>
    obtain ⟨pos, _⟩ := cur
    cases hr
    rw [← ih, readString.eq_def]
    simp only [Cursor.shift, hq, hb, hd, if_false, if_true, Nat.add_right_comm pos d]
  | case6 cur c hq hb e rest hr hd code next he _ ih =>
    obtain ⟨pos, _⟩ := cur
    cases hr
    cases Decidable.not_not.1 hb
    rw [Outcome.shift_map, ← ih, Cursor.shift, readString_escape _ _ hd, readEscape_shift, he]
    rfl
  | case7 cur c hq hb e rest hr hd stop he =>
    obtain ⟨pos, _⟩ := cur
    cases hr
    cases Decidable.not_not.1 hb
    rw [Cursor.shift, readString_escape _ _ hd, readEscape_shift, he]
    rfl
  | case8 cur c hq hb e rest hr hd fault stop he =>
    obtain ⟨pos, _⟩ := cur
    cases hr
    cases Decidable.not_not.1 hb
    rw [Cursor.shift, readString_escape _ _ hd, readEscape_shift, he]
    rfl

theorem readCharacter_shift (d start : Nat) (t : Text) :
    readCharacter (start + d) t = (readCharacter start t).shift d := by
  unfold readCharacter
  rw [Nat.add_right_comm, readModified_shift]
  refine Outcome.shift_bind d fun code next => ?_
  obtain ⟨pos, rest⟩ := next
  cases rest with
  | nil => rfl
  | cons c rest =>
    rw [Outcome.shift_ite]
    rfl

/-! ## Lexemes -/

theorem readRadix_shift (d start : Nat) (t : Text) :
    readRadix (start + d) t = (readRadix start t).shift d := by
  unfold readRadix
  dsimp only
  generalize t.takeWhile CodePoint.isDigit = digits
  cases t.drop digits.length with
  | nil => rfl
  | cons c rest =>
    simp only [Outcome.shift_ite]
    split
    · rfl
    · cases Numeral.parse 10 digits with
      | error e => rfl
      | ok radix =>
        simp only [Outcome.shift_ite]
        rw [← readInteger_shift, show start + d + 1 + digits.length + 1 =
          start + 1 + digits.length + 1 + d by omega]
        rfl

theorem readBoolVector_shift (d start : Nat) (t : Text) :
    readBoolVector (start + d) t = (readBoolVector start t).shift d := by
  unfold readBoolVector
  dsimp only
  generalize t.takeWhile CodePoint.isDigit = digits
  cases t.drop digits.length with
  | nil => rfl
  | cons c rest =>
    simp only [Outcome.shift_ite]
    split
    · rfl
    · rw [show start + d + 2 + digits.length + 1 = start + 2 + digits.length + 1 + d by omega]
      rw [← Cursor.shift_mk, readString_shift]
      refine Outcome.shift_bind d fun data next => ?_
      cases Numeral.parse 10 digits <;> rfl

theorem readDispatch_shift (d start : Nat) (t : Text) :
    readDispatch (start + d) t = (readDispatch start t).shift d := by
  cases t with
  | nil => rfl
  | cons c rest =>
    simp only [readDispatch, Outcome.shift_ite, Nat.add_right_comm start d, readBoolVector_shift d,
      readSymbol_shift d]
    cases radixOf? c with
    | none =>
      simp only [Outcome.shift_ite, readRadix_shift d]
      rfl
    | some radix =>
      simp only [readInteger_shift d]
      rfl

theorem lexemeAt_shift (d pos : Nat) (c : CodePoint) (rest : Text) :
    lexemeAt (pos + d) c rest = (lexemeAt pos c rest).shift d := by
  simp only [lexemeAt, Outcome.shift_ite, Outcome.shift_map, Nat.add_right_comm pos d,
    readCharacter_shift, readDispatch_shift, readAtom_shift, ← readString_shift]
  rfl

/-- A lexeme further on. -/
def Lexed.shift (d : Nat) (x : Lexed) : Lexed := ⟨x.start + d, x.lexeme⟩

theorem lex_shift (d : Nat) (cur : Cursor) :
    lex (cur.shift d) = ((lex cur).shift d).map (Option.map (.shift d)) := by
  unfold lex
  rw [skipBlanks_shift, ← Outcome.shift_map, Outcome.map_bind]
  refine Outcome.shift_bind d fun _ mid => ?_
  obtain ⟨pos, rest⟩ := mid
  cases rest with
  | nil => rfl
  | cons c rest =>
    simp only [Cursor.shift, lexemeAt_shift, Outcome.shift_map, Outcome.map_map]
    rfl

/-! ## Forms -/

theorem Piece.move_ofAtom_forward (d s e : Nat) (f : Form) :
    (Piece.ofAtom s e f).move (.forward d) = .ofAtom (s + d) (e + d) f := by
  cases f with
  | symbol x => simp [ofAtom, move, Occurrence.move, Moves.forward, Nat.add_sub_add_right]
  | _ => rfl

theorem Bracket.build_shift (b : Bracket) (d start : Nat) (c : Contents) (next : Cursor) :
    b.build (start + d) (c.move (.forward d)) (next.shift d) =
      ((b.build start c next).shift d).map (.move (.forward d)) := by
  rw [Bracket.build_eq, Bracket.build_eq]
  have hitems : (c.move (.forward d)).items = c.items := rfl
  have htail : (c.move (.forward d)).tail = c.tail := rfl
  rw [hitems, htail]
  cases b.form? c.items c.tail with
  | none => rfl
  | some f => rfl

theorem closeTail_shift (d : Nat) (cur : Cursor) :
    closeTail (cur.shift d) = (closeTail cur).shift d := by
  unfold closeTail
  rw [skipBlanks_shift]
  refine Outcome.shift_bind d fun _ mid => ?_
  obtain ⟨pos, rest⟩ := mid
  cases rest with
  | nil => rfl
  | cons c rest =>
    simp only [Cursor.shift, Outcome.shift_ite, Nat.add_right_comm pos d]
    rfl

theorem Contents.move_cons (m : Moves) (p : Piece) (c : Contents) :
    (Contents.cons p c).move m = .cons (p.move m) (c.move m) := by
  simp [move, cons, Piece.move]

/-- A value that is read further on and changed. -/
theorem Outcome.shift_map_comm {α β γ δ : Type} {d : Nat} {o : Outcome α} {m : α → β} {f : β → γ}
    {f' : α → δ} {m' : δ → γ} (h : ∀ a, f (m a) = m' (f' a)) :
    ((o.shift d).map m).map f = ((o.map f').shift d).map m' := by
  cases o with
  | done a mid => exact congrArg (Outcome.done · _) (h a)
  | truncated stop => rfl
  | failed fault stop => rfl

mutual

theorem readForm_shift (d : Nat) (x : Lexed) (next : Cursor) :
    readForm (x.shift d) (next.shift d) =
      ((readForm x next).shift d).map (.move (.forward d)) := by
  obtain ⟨s, x⟩ := x
  rw [readForm_eq, readForm_eq]
  cases x with
  | closer c => rfl
  | dot => rfl
  | atom f =>
    simp only [Lexed.shift, Cursor.shift, Outcome.shift, Outcome.map, Piece.move_ofAtom_forward]
  | shorthand m =>
    simp only [Lexed.shift, lex_shift]
    refine Outcome.shift_map_bind d fun y mid hy => ?_
    cases y with
    | none => rfl
    | some y =>
      have hlt := (lex_advances hy).length_lt
      simp only [Option.map]
      rw [readForm_shift d y mid]
      exact Outcome.shift_map_comm fun p => rfl
  | opener b =>
    simp only [Lexed.shift]
    rw [readItems_shift d b false next]
    exact Outcome.shift_map_bind d fun c mid _ => Bracket.build_shift b d s c mid
termination_by 2 * next.rest.length + 1

theorem readItems_shift (d : Nat) (b : Bracket) (begun : Bool) (cur : Cursor) :
    readItems b begun (cur.shift d) =
      ((readItems b begun cur).shift d).map (.move (.forward d)) := by
  rw [readItems_eq, readItems_eq, lex_shift]
  refine Outcome.shift_map_bind d fun x mid hx => ?_
  cases x with
  | none => rfl
  | some x =>
    have hlt := (lex_advances hx).length_lt
    have hitem : (readForm (x.shift d) (mid.shift d)).bind
          (fun p after => (readItems b true after).map (Contents.cons p)) =
        Outcome.map (.move (.forward d)) (((readForm x mid).bind fun p after =>
          (readItems b true after).map (Contents.cons p)).shift d) := by
      rw [readForm_shift d x mid]
      refine Outcome.shift_map_bind d fun p after hp => ?_
      have hle := (readForm_from _ _ _ _ hp).length_le
      rw [readItems_shift d b true after]
      exact Outcome.shift_map_comm fun c => (Contents.move_cons _ p c).symm
    simp only [Option.map]
    obtain ⟨s, x⟩ := x
    cases x with
    | closer c =>
      simp only [Lexed.shift]
      split <;> rfl
    | dot =>
      simp only [Lexed.shift]
      split
      · exact readAfterDot_shift d s mid
      · rfl
    | atom f | shorthand m | opener b' => exact hitem
termination_by 2 * cur.rest.length

theorem readAfterDot_shift (d dot : Nat) (cur : Cursor) :
    readAfterDot (dot + d) (cur.shift d) =
      ((readAfterDot dot cur).shift d).map (.move (.forward d)) := by
  rw [readAfterDot_eq, readAfterDot_eq, lex_shift]
  refine Outcome.shift_map_bind d fun x mid hx => ?_
  cases x with
  | none => rfl
  | some x =>
    have hlt := (lex_advances hx).length_lt
    simp only [Option.map]
    by_cases hp : x.lexeme.isParenthesis = true
    · rw [if_pos hp, if_pos (show (x.shift d).lexeme.isParenthesis = true from hp)]
      rfl
    · rw [if_neg hp, if_neg (show ¬(x.shift d).lexeme.isParenthesis = true from hp)]
      rw [readForm_shift d x mid]
      refine Outcome.shift_map_bind d fun p after _ => ?_
      rw [closeTail_shift, Outcome.shift_map, Outcome.map_map]
      rfl
termination_by 2 * cur.rest.length

end

/-! ## Top-level forms -/

/-- A top-level form further on. Its symbol tokens count from its start. -/
def Positioned.shift (d : Nat) (p : Positioned) : Positioned := { p with span := p.span.shift d }

/-- A halt further on. -/
def Halt.shift (d : Nat) (h : Halt) : Halt := ⟨h.fault.shift d, h.stop + d⟩

theorem Positioned.ofPiece_forward (d s e : Nat) (p : Piece) :
    Positioned.ofPiece (s + d) (e + d) (p.move (.forward d)) = (Positioned.ofPiece s e p).shift d := by
  simp only [ofPiece, shift, Piece.move, List.map_map, Span.shift_ofNat]
  congr 1
  refine List.map_congr_left fun o _ => ?_
  simp only [Function.comp, Occurrence.move, Moves.forward, Nat.add_sub_add_right]

theorem nextForm_shift (d : Nat) (cur : Cursor) :
    nextForm (cur.shift d) = ((nextForm cur).shift d).map (Option.map (.shift d)) := by
  unfold nextForm
  rw [lex_shift]
  refine Outcome.shift_map_bind d fun x mid _ => ?_
  cases x with
  | none => rfl
  | some x =>
    simp only [Option.map]
    rw [readForm_shift]
    refine Outcome.shift_map_bind d fun p after _ => ?_
    simp only [Lexed.shift, Cursor.shift, Positioned.ofPiece_forward]
    rfl

/-- Further on in a text, the same forms stand further on, and so does a fault. -/
theorem readForms_shift (d : Nat) (cur : Cursor) :
    readForms (cur.shift d) =
      ((readForms cur).map (List.map (.shift d))).mapError (.shift d) := by
  rw [readForms.eq_def, readForms.eq_def, nextForm_shift]
  cases hn : nextForm cur with
  | truncated stop => rfl
  | failed fault stop => rfl
  | done p next =>
    cases p with
    | none => rfl
    | some p =>
      have hlt := (nextForm_advances hn).length_lt
      simp only [Outcome.shift, Outcome.map, Option.map]
      rw [readForms_shift d next]
      cases readForms next <;> rfl
termination_by cur.rest.length

/-! ## Texts that stand further on in another -/

section Forward

variable {text text' : Text} {q s n d : Nat}

theorem Cursor.ofText_forward (h : text'.drop (q + d) = text.drop q) :
    Cursor.ofText text' (q + d) = (Cursor.ofText text q).shift d := by
  rw [Cursor.ofText, h]
  rfl

theorem Gap.forward (h : Gap text q s) (hq : text'.drop (q + d) = text.drop q)
    (hs : text'.drop (s + d) = text.drop s) : Gap text' (q + d) (s + d) := by
  rw [Gap, Cursor.ofText_forward hq, Cursor.ofText_forward hs, skipBlanks_shift, h]
  rfl

theorem LexemeAt.forward {x : Lexeme} (h : LexemeAt text s x n)
    (hs : text'.drop (s + d) = text.drop s) (hn : text'.drop (n + d) = text.drop n) :
    LexemeAt text' (s + d) x (n + d) := by
  rw [LexemeAt, Cursor.ofText_forward hs, Cursor.ofText_forward hn, lex_shift, h]
  rfl

end Forward

end Reading

end LispXref
