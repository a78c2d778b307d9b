-- How lexemes are written. Brackets, closing delimiters, dots and shorthand marks
-- have one spelling each; every other lexeme is an atom, and no atom is a compound.
-- Only closing delimiters and lone dots start no form.
import LispXref.Proofs.Digits
import LispXref.Proofs.Seam.Lexeme

namespace LispXref

/-- The atoms that reading can give. The code of a character is what a text spells, and the
length of a bool-vector has no more digits than are read. -/
inductive Form.Readable [CharacterNames] : Form → Prop
  | symbol (s : Symbol) : Readable (.symbol s)
  | string (value : Text) : Readable (.string value)
  | int (value : Int) : Readable (.int value)
  | float (value : Binary64) : Readable (.float value)
  | char {pos : Nat} {t : Text} {code : Int} {next : Reading.Cursor}
      (h : Reading.readModified pos t = .done code next) : Readable (.char code)
  | boolVector {length : Nat} (data : Text) (h : length < Nat.pow 10 Numeral.digitLimit) :
      Readable (.boolVector length data)

variable {known : CharacterNames}

theorem Form.Readable.isCompound_eq {f : Form} (h : f.Readable) : f.isCompound = false := by
  cases h <;> rfl

/-- Whether the form is a character. -/
def Form.isCharacter : Form → Bool
  | .char _ => true
  | _ => false

namespace Reading

/-- How a bracket is written. -/
def Bracket.opening : Bracket → Text
  | .list => ['(']
  | .vector .plain => ['[']
  | .vector .record => ['#', 's', '(']
  | .vector .bytecode => ['#', '[']
  | .propertied => ['#', '(']

/-- What stands between an offset, where `t` begins, and the place behind a lexeme. A
comma is not followed by an at sign, which would belong to the mark. -/
def Lexeme.Spelled (x : Lexeme) (pos : Nat) (t : Text) (next : Cursor) : Prop :=
  match x with
  | .opener b => t = b.opening ++ next.rest ∧ next.pos = pos + b.opening.length
  | .closer c => t = c :: next.rest ∧ next.pos = pos + 1
  | .dot => t = CodePoint.ofChar '.' :: next.rest ∧ next.pos = pos + 1
  | .shorthand m =>
    t = m.mark ++ next.rest ∧ next.pos = pos + m.mark.length ∧
      (m = .comma → next.rest.head? ≠ some (CodePoint.ofChar '@'))
  | .atom f => f.isCompound = false

/-- Whatever is read, with the place behind it, has a property. -/
def Outcome.Gives {α : Type} (P : α → Cursor → Prop) (o : Outcome α) : Prop :=
  ∀ a next, o = .done a next → P a next

namespace Outcome.Gives

variable {α β : Type} {P : α → Cursor → Prop} {Q : β → Cursor → Prop}

theorem done {a : α} {next : Cursor} (h : P a next) : (Outcome.done a next).Gives P := by
  rintro _ _ ⟨⟩
  exact h

theorem truncated (stop : Nat) : (Outcome.truncated stop).Gives P := nofun

theorem failed (fault : Fault) (stop : Nat) : (Outcome.failed fault stop).Gives P := nofun

theorem ite {p : Prop} [Decidable p] {a b : Outcome α} (ha : p → a.Gives P) (hb : ¬p → b.Gives P) :
    (if p then a else b).Gives P := by
  by_cases h : p
  · rw [if_pos h]
    exact ha h
  · rw [if_neg h]
    exact hb h

theorem map {o : Outcome α} {f : α → β} (h : ∀ a next, o = .done a next → Q (f a) next) :
    (o.map f).Gives Q := by
  intro b next hb
  obtain ⟨a, ha, rfl⟩ := map_eq_done.1 hb
  exact h a next ha

theorem bind {o : Outcome α} {f : α → Cursor → Outcome β} (h : ∀ a mid, (f a mid).Gives Q) :
    (o.bind f).Gives Q := by
  intro b next hb
  obtain ⟨a, mid, _, hn⟩ := bind_eq_done.1 hb
  exact h a mid b next hn

end Outcome.Gives

/-! ## Atoms -/

/-- The lexeme is an atom that is no compound. -/
def Lexeme.IsAtom (x : Lexeme) (_ : Cursor) : Prop := ∃ f : Form, x = .atom f ∧ f.isCompound = false

/-- The lexeme is an atom that reading can give, and no character. -/
def Lexeme.IsReadable [CharacterNames] (x : Lexeme) (_ : Cursor) : Prop :=
  ∃ f : Form, x = .atom f ∧ f.Readable ∧ f.isCharacter = false

theorem Outcome.Gives.isAtom {o : Outcome Lexeme} (h : o.Gives Lexeme.IsReadable) :
    o.Gives Lexeme.IsAtom := by
  intro x next hx
  obtain ⟨f, rfl, hf, _⟩ := h x next hx
  exact ⟨f, rfl, hf.isCompound_eq⟩

theorem Token.form_readable {t : Token} {f : Form} (h : t.form = .ok f) :
    f.Readable ∧ f.isCharacter = false := by
  unfold form at h
  split at h
  · cases h
    exact ⟨.symbol _, rfl⟩
  · split at h
    · cases hi : integerValue t.name with
      | ok n =>
        rw [hi] at h
        cases h
        exact ⟨.int n, rfl⟩
      | error e =>
        rw [hi] at h
        cases h
    · split at h
      · cases h
        exact ⟨.float _, rfl⟩
      · cases h
        exact ⟨.symbol _, rfl⟩

theorem readAtom_readable [CharacterNames] (pos : Nat) (t : Text) :
    (readAtom pos t).Gives Lexeme.IsReadable := by
  refine .bind fun token mid => ?_
  cases hf : token.form with
  | ok f => exact .done ⟨f, rfl, Token.form_readable hf⟩
  | error e => exact .failed _ _

theorem readSymbol_readable [CharacterNames] (pos : Nat) (interned : Bool) (t : Text) :
    (readSymbol pos interned t).Gives Lexeme.IsReadable := .map fun _ _ _ => ⟨_, rfl, .symbol _, rfl⟩

theorem readInteger_readable [CharacterNames] (start radix pos : Nat) (t : Text) :
    (readInteger start radix pos t).Gives Lexeme.IsReadable := by
  refine .bind fun token mid => ?_
  cases Numeral.parse radix token.name with
  | ok n => exact .done ⟨_, rfl, .int n, rfl⟩
  | error e => exact .failed _ _

theorem readRadix_readable [CharacterNames] (start : Nat) (t : Text) :
    (readRadix start t).Gives Lexeme.IsReadable := by
  unfold readRadix
  dsimp only
  split
  · exact .truncated _
  · refine .ite (fun _ => .failed _ _) fun _ => ?_
    split
    · exact .failed _ _
    · exact .ite (fun _ => .failed _ _) fun _ => readInteger_readable _ _ _ _

theorem readBoolVector_readable (start : Nat) (t : Text) :
    (readBoolVector start t).Gives Lexeme.IsReadable := by
  unfold readBoolVector
  dsimp only
  split
  · exact .truncated _
  · refine .ite (fun _ => .failed _ _) fun _ => .bind fun data mid => ?_
    split
    · -- The length is read as a numeral, so its digits are counted.
      rename_i n hn
      have hlt := Numeral.natAbs_lt_of_parse hn
      have hle : n.toNat ≤ n.natAbs := by omega
      exact .done ⟨_, rfl, .boolVector data (Nat.lt_of_le_of_lt hle hlt), rfl⟩
    · exact .failed _ _

/-! ## Lexemes -/

theorem Outcome.Gives.spelled {o : Outcome Lexeme} (h : o.Gives Lexeme.IsAtom) (pos : Nat)
    (t : Text) : o.Gives fun x next => x.Spelled pos t next := by
  intro x next hx
  obtain ⟨f, rfl, hf⟩ := h x next hx
  exact hf

theorem readDispatch_spelled (pos : Nat) (t : Text) :
    (readDispatch pos t).Gives fun x next => x.Spelled pos (CodePoint.ofChar '#' :: t) next := by
  unfold readDispatch
  split
  · exact .truncated _
  · rename_i c rest
    refine .ite (fun hc => .done ?_) fun _ => .ite (fun hc => .done ?_) fun _ =>
      .ite (fun hc => .done ?_) fun _ => .ite (fun hc => .done ?_) fun _ =>
      .ite (fun _ => (readBoolVector_readable _ _).isAtom.spelled _ _) fun _ =>
      .ite (fun _ => (readSymbol_readable _ _ _).isAtom.spelled _ _) fun _ =>
      .ite (fun _ => .done rfl) fun _ =>
      .ite (fun _ => (readSymbol_readable _ _ _).isAtom.spelled _ _) fun _ => ?_
    · subst hc
      exact ⟨rfl, rfl, fun hm => by cases hm⟩
    · obtain ⟨rfl, hp⟩ := hc
      cases rest with
      | nil => cases hp
      | cons d rest =>
        cases hp
        exact ⟨rfl, rfl⟩
    · subst hc
      exact ⟨rfl, rfl⟩
    · subst hc
      exact ⟨rfl, rfl⟩
    · cases radixOf? c with
      | some radix => exact (readInteger_readable _ _ _ _).isAtom.spelled _ _
      | none =>
        exact .ite (fun _ => (readRadix_readable _ _).isAtom.spelled _ _) fun _ => .failed _ _

/-- What a lexeme can be, and how it is written. -/
theorem lexemeAt_spelled (pos : Nat) (c : CodePoint) (rest : Text) :
    (lexemeAt pos c rest).Gives fun x next => x.Spelled pos (c :: rest) next := by
  unfold lexemeAt
  refine .ite (fun hc => .done ?_) fun _ => .ite (fun hc => .done ?_) fun _ =>
    .ite (fun _ => .done ⟨rfl, rfl⟩) fun _ => .ite (fun _ => .map fun _ _ _ => rfl) fun _ =>
    .ite (fun _ => .map fun f next h => ?_) fun _ => .ite (fun hc => .done ?_) fun _ =>
    .ite (fun hc => .done ?_) fun _ => .ite (fun hc => ?_) fun _ => .ite (fun hc => ?_) fun _ =>
    .ite (fun hc => .done ?_) fun _ => (readAtom_readable _ _).isAtom.spelled _ _
  · subst hc
    exact ⟨rfl, rfl⟩
  · subst hc
    exact ⟨rfl, rfl⟩
  · obtain ⟨code, _, rfl, _⟩ := readCharacter_eq_done.1 h
    rfl
  · subst hc
    exact ⟨rfl, rfl, fun hm => by cases hm⟩
  · subst hc
    exact ⟨rfl, rfl, fun hm => by cases hm⟩
  · subst hc
    refine .ite (fun ha => .done ?_) fun ha => .done ⟨rfl, rfl, fun _ => ha⟩
    cases rest with
    | nil => cases ha
    | cons d rest =>
      cases ha
      exact ⟨rfl, rfl, fun hm => by cases hm⟩
  · subst hc
    exact readDispatch_spelled pos rest
  · obtain ⟨rfl, _⟩ := hc
    exact ⟨rfl, rfl⟩

/-! ## Lexemes that start no form -/

/-- A form can start with the lexeme: it is no closing delimiter and no dot. -/
def Lexeme.startsForm : Lexeme → Bool
  | .closer _ | .dot => false
  | _ => true

theorem Outcome.Gives.startsForm {o : Outcome Lexeme} (h : o.Gives Lexeme.IsAtom) :
    o.Gives fun x _ => x.startsForm = true := by
  intro x next hx
  obtain ⟨f, rfl, _⟩ := h x next hx
  rfl

theorem readDispatch_startsForm (pos : Nat) (t : Text) :
    (readDispatch pos t).Gives fun x _ => x.startsForm = true := by
  unfold readDispatch
  split
  · exact .truncated _
  · rename_i c rest
    refine .ite (fun _ => .done rfl) fun _ => .ite (fun _ => .done rfl) fun _ =>
      .ite (fun _ => .done rfl) fun _ => .ite (fun _ => .done rfl) fun _ =>
      .ite (fun _ => (readBoolVector_readable _ _).isAtom.startsForm) fun _ =>
      .ite (fun _ => (readSymbol_readable _ _ _).isAtom.startsForm) fun _ =>
      .ite (fun _ => .done rfl) fun _ =>
      .ite (fun _ => (readSymbol_readable _ _ _).isAtom.startsForm) fun _ => ?_
    cases radixOf? c with
    | some radix => exact (readInteger_readable _ _ _ _).isAtom.startsForm
    | none => exact .ite (fun _ => (readRadix_readable _ _).isAtom.startsForm) fun _ => .failed _ _

/-- A lexeme that starts no form is a closing delimiter or a dot that stands alone. -/
theorem lexemeAt_startsForm (pos : Nat) (c : CodePoint) (rest : Text) :
    (lexemeAt pos c rest).Gives fun x _ => x.startsForm = true ∨
      x = .closer c ∧ isCloser c = true ∨ x = .dot ∧ c = '.' ∧ standsAlone rest = true := by
  have forms : ∀ {o : Outcome Lexeme}, (o.Gives fun x _ => x.startsForm = true) →
      o.Gives fun x _ => x.startsForm = true ∨
        x = .closer c ∧ isCloser c = true ∨ x = .dot ∧ c = '.' ∧ standsAlone rest = true :=
    fun h x next hx => .inl (h x next hx)
  unfold lexemeAt
  refine .ite (fun _ => forms (.done rfl)) fun _ => .ite (fun _ => forms (.done rfl)) fun _ =>
    .ite (fun hc => .done (.inr (.inl ⟨rfl, hc⟩))) fun _ =>
    .ite (fun _ => forms (.map fun _ _ _ => rfl)) fun _ =>
    .ite (fun _ => forms (.map fun _ _ _ => rfl)) fun _ => .ite (fun _ => forms (.done rfl)) fun _ =>
    .ite (fun _ => forms (.done rfl)) fun _ =>
    .ite (fun _ => forms (.ite (fun _ => .done rfl) fun _ => .done rfl)) fun _ =>
    .ite (fun _ => forms (readDispatch_startsForm _ _)) fun _ =>
    .ite (fun hc => .done (.inr (.inr ⟨rfl, hc⟩))) fun _ => forms (readAtom_readable _ _).isAtom.startsForm

theorem isCloser_of_lexemeAt {pos : Nat} {c d : CodePoint} {rest : Text} {next : Cursor}
    (h : lexemeAt pos c rest = .done (.closer d) next) : isCloser c = true := by
  rcases lexemeAt_startsForm pos c rest _ _ h with hstarts | ⟨_, hc⟩ | ⟨hdot, _⟩
  · cases hstarts
  · exact hc
  · cases hdot

theorem lexemeAt_closer (pos : Nat) {c : CodePoint} (h : isCloser c = true) (rest : Text) :
    lexemeAt pos c rest = .done (.closer c) ⟨pos + 1, rest⟩ := by
  have hparen : c ≠ '(' := by
    rintro rfl
    cases h
  have hsquare : c ≠ '[' := by
    rintro rfl
    cases h
  rw [lexemeAt, if_neg hparen, if_neg hsquare, if_pos h]

theorem lexemeAt_dot (pos : Nat) {rest : Text} (h : standsAlone rest = true) :
    lexemeAt pos '.' rest = .done .dot ⟨pos + 1, rest⟩ := by
  -- The dot is none of the characters that are looked for before it.
  show (if CodePoint.ofChar '.' = CodePoint.ofChar '.' ∧ standsAlone rest = true then
    Outcome.done Lexeme.dot ⟨pos + 1, rest⟩ else readAtom pos ('.' :: rest)) = _
  rw [if_pos ⟨rfl, h⟩]

/-! ## Atoms among lexemes -/

/-- The lexeme is an atom that reading can give, or no atom. A character stands behind the
question mark that a text begins with. -/
def Lexeme.Readable [CharacterNames] (x : Lexeme) (pos : Nat) (t : Text) (next : Cursor) : Prop :=
  match x with
  | .atom (.char code) =>
    ∃ body, t = CodePoint.ofChar '?' :: body ∧ readModified (pos + 1) body = .done code next
  | .atom f => f.Readable
  | _ => True

theorem Lexeme.Readable.form {f : Form} {pos : Nat} {t : Text} {next : Cursor}
    (h : (Lexeme.atom f).Readable pos t next) : f.Readable := by
  cases f with
  | char code =>
    obtain ⟨body, _, hbody⟩ := h
    exact .char hbody
  | _ => exact h

theorem Outcome.Gives.readable {o : Outcome Lexeme} (h : o.Gives Lexeme.IsReadable) (pos : Nat)
    (t : Text) : o.Gives fun x next => x.Readable pos t next := by
  intro x next hx
  obtain ⟨f, rfl, hf, hchar⟩ := h x next hx
  cases f with
  | char code => cases hchar
  | _ => exact hf

theorem readDispatch_readable (pos : Nat) (t : Text) :
    (readDispatch pos t).Gives fun x next => x.Readable pos (CodePoint.ofChar '#' :: t) next := by
  unfold readDispatch
  split
  · exact .truncated _
  · rename_i c rest
    refine .ite (fun _ => .done trivial) fun _ => .ite (fun _ => .done trivial) fun _ =>
      .ite (fun _ => .done trivial) fun _ => .ite (fun _ => .done trivial) fun _ =>
      .ite (fun _ => (readBoolVector_readable _ _).readable _ _) fun _ =>
      .ite (fun _ => (readSymbol_readable _ _ _).readable _ _) fun _ =>
      .ite (fun _ => .done (Form.Readable.symbol _)) fun _ =>
      .ite (fun _ => (readSymbol_readable _ _ _).readable _ _) fun _ => ?_
    cases radixOf? c with
    | some radix => exact (readInteger_readable _ _ _ _).readable _ _
    | none => exact .ite (fun _ => (readRadix_readable _ _).readable _ _) fun _ => .failed _ _

/-- Every lexeme that is an atom is one that reading can give. -/
theorem lexemeAt_readable (pos : Nat) (c : CodePoint) (rest : Text) :
    (lexemeAt pos c rest).Gives fun x next => x.Readable pos (c :: rest) next := by
  unfold lexemeAt
  refine .ite (fun _ => .done trivial) fun _ => .ite (fun _ => .done trivial) fun _ =>
    .ite (fun _ => .done trivial) fun _ =>
    .ite (fun _ => .map fun value _ _ => Form.Readable.string value) fun _ =>
    .ite (fun hc => .map fun f next h => ?_) fun _ => .ite (fun _ => .done trivial) fun _ =>
    .ite (fun _ => .done trivial) fun _ =>
    .ite (fun _ => .ite (fun _ => .done trivial) fun _ => .done trivial) fun _ =>
    .ite (fun hc => ?_) fun _ => .ite (fun _ => .done trivial) fun _ =>
    (readAtom_readable _ _).readable _ _
  · obtain ⟨code, hcode, rfl, _⟩ := readCharacter_eq_done.1 h
    subst hc
    exact ⟨rest, rfl, hcode⟩
  · subst hc
    exact readDispatch_readable _ _

end Reading

end LispXref
