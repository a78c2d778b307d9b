-- Numbers among the tokens. Main statement: a token that stands alone is read as one form. It
-- is an integer or a floating-point number just if the grammar below spells it as one, and else
-- the symbol of its name; with a backslash before one of its characters it always is the symbol.
import LispXref.Proofs.Radix
import LispXref.Reading.SomeNames
import Mathlib.Data.List.Forall2

namespace LispXref

namespace Reading

open Numeral (SignSpelling)

/-! ## The grammar of numbers -/

/-- One or more ASCII digits. -/
def IsDigits (t : Text) : Prop := t ≠ [] ∧ ∀ c ∈ t, c.isDecimalDigit = true

/-- The number that decimal digits spell, the most significant one first. -/
def decimalValue (digits : Text) : Nat :=
  Nat.ofDigits 10 (digits.map fun c => c.val - '0'.toNat).reverse

/-- A number with its sign. -/
def signedValue (negative : Bool) (n : Nat) : Int := if negative then -n else n

/-- An integer: a sign or none, digits, and a dot or none. -/
inductive IntegerSpelling : Text → Bool → Text → Prop
  | intro {sign digits dot : Text} {negative : Bool} (hs : SignSpelling sign negative)
      (hd : IsDigits digits) (hdot : dot = [] ∨ dot = Text.of ".") :
      IntegerSpelling (sign ++ (digits ++ dot)) negative digits

/-- Digits with a fraction, a fraction alone, or digits alone. -/
inductive MantissaSpelling : Text → Text → Text → Prop
  | both {whole fraction : Text} (hw : IsDigits whole) (hf : IsDigits fraction) :
      MantissaSpelling (whole ++ Text.of "." ++ fraction) whole fraction
  | fraction {fraction : Text} (hf : IsDigits fraction) :
      MantissaSpelling (Text.of "." ++ fraction) [] fraction
  | whole {whole : Text} (hw : IsDigits whole) : MantissaSpelling whole whole []

/-- No exponent, a power of ten, or one of the two words for what is no finite number. -/
inductive ExponentSpelling : Text → Exponent → Prop
  | absent : ExponentSpelling [] (.power 0)
  | power {sign digits : Text} {negative : Bool} (hs : SignSpelling sign negative)
      (hd : IsDigits digits) :
      ExponentSpelling (Text.of "e" ++ sign ++ digits) (.power (signedValue negative (decimalValue digits)))
  | infinity : ExponentSpelling (Text.of "e+INF") .infinity
  | nan : ExponentSpelling (Text.of "e+NaN") .nan

/-- A floating-point number, apart from integers: a sign or none, a mantissa and perhaps an
exponent. -/
inductive FloatSpelling : Text → FloatLiteral → Prop
  | intro {sign mantissa whole fraction power : Text} {negative : Bool} {exponent : Exponent}
      (hs : SignSpelling sign negative) (hm : MantissaSpelling mantissa whole fraction)
      (he : ExponentSpelling power exponent) :
      FloatSpelling (sign ++ (mantissa ++ power)) ⟨negative, whole, fraction, exponent⟩

/-! ## Digits -/

theorem leadingDigits_append {digits rest : Text} (hd : ∀ c ∈ digits, c.isDecimalDigit = true)
    (hr : ∀ c ∈ rest.head?, c.isDecimalDigit = false) : leadingDigits (digits ++ rest) = digits := by
  unfold leadingDigits
  cases rest with
  | nil => rw [List.append_nil, List.takeWhile_eq_self_iff.2 hd]
  | cons c rest => exact takeWhile_append_cons hd (hr c rfl) rest

theorem afterDigits_append {digits rest : Text} (hd : ∀ c ∈ digits, c.isDecimalDigit = true)
    (hr : ∀ c ∈ rest.head?, c.isDecimalDigit = false) : afterDigits (digits ++ rest) = rest := by
  have hsplit := List.takeWhile_append_dropWhile (p := CodePoint.isDecimalDigit) (l := digits ++ rest)
  rw [show (digits ++ rest).takeWhile CodePoint.isDecimalDigit = digits from
    leadingDigits_append hd hr] at hsplit
  exact List.append_cancel_left hsplit

theorem leadingDigits_append_afterDigits (t : Text) : leadingDigits t ++ afterDigits t = t :=
  List.takeWhile_append_dropWhile

theorem isDecimalDigit_of_mem_leadingDigits {t : Text} :
    ∀ c ∈ leadingDigits t, c.isDecimalDigit = true :=
  fun _ hc => List.all_eq_true.1 List.all_takeWhile _ hc

theorem isDigits_leadingDigits {t : Text} (h : leadingDigits t ≠ []) : IsDigits (leadingDigits t) :=
  ⟨h, isDecimalDigit_of_mem_leadingDigits⟩

namespace IsDigits

variable {digits : Text}

/-- Digits begin with no sign. -/
theorem head?_ne_sign (h : IsDigits digits) (rest : Text) :
    ∀ c ∈ (digits ++ rest).head?, c ≠ '-' ∧ c ≠ '+' := by
  obtain ⟨d, ds, rfl⟩ := List.exists_cons_of_ne_nil h.1
  rintro c ⟨⟩
  exact Numeral.ne_sign_of_isDigitOf
    (CodePoint.isDigitOf_of_isDecimalDigit (h.2 _ List.mem_cons_self))

/-- Digits behind a sign have no letter. -/
theorem signed_ne (h : IsDigits digits) {sign word : Text} {negative : Bool}
    (hs : SignSpelling sign negative) {c : CodePoint} (hc : c ∈ word)
    (hdigit : c.isDecimalDigit = false) (hsign : ¬(c = '-' ∨ c = '+')) : sign ++ digits ≠ word := by
  rintro rfl
  rcases List.mem_append.1 hc with hc | hc
  · exact hsign (hs.eq_of_mem hc)
  · rw [h.2 c hc] at hdigit
    cases hdigit

theorem digitsValue_eq (h : IsDigits digits) : Text.digitsValue 10 digits = decimalValue digits := by
  have hten : ∀ d < 10, Numeral.digitCharacters[d]?.map Char.toNat = some (48 + d) := by decide
  refine Numeral.digitsValue_eq_ofDigits 10 (List.forall₂_map_right_iff.2 (List.forall₂_same.2 ?_))
  intro c hc
  have hv := CodePoint.isDecimalDigit_iff.1 (h.2 c hc)
  obtain ⟨ch, hch, hval⟩ := Option.map_eq_some_iff.1 (hten (c.val - 48) (by omega))
  refine ⟨ch, hch, .inl ?_⟩
  rw [CodePoint.eq_ofChar_iff, hval]
  omega

end IsDigits

/-! ## Integers -/

namespace IntegerSpelling

variable {w digits : Text} {negative : Bool}

/-- Behind the sign stand the digits, and perhaps the dot. -/
theorem exists_dot (h : IntegerSpelling w negative digits) :
    IsDigits digits ∧ ∃ dot, (dot = [] ∨ dot = Text.of ".") ∧
      Numeral.splitSign w = (negative, digits ++ dot) ∧ leadingDigits (digits ++ dot) = digits ∧
      afterDigits (digits ++ dot) = dot := by
  cases h with
  | @intro sign digits dot negative hs hd hdot =>
    have hstop : ∀ c ∈ dot.head?, c.isDecimalDigit = false := by
      rcases hdot with rfl | rfl
      · nofun
      · rintro c ⟨⟩
        decide
    exact ⟨hd, dot, hdot, hs.splitSign (hd.head?_ne_sign dot), leadingDigits_append hd.2 hstop,
      afterDigits_append hd.2 hstop⟩

theorem spellsInteger_eq (h : IntegerSpelling w negative digits) : spellsInteger w = true := by
  obtain ⟨hd, dot, hdot, hsplit, hlead, hafter⟩ := h.exists_dot
  simp [spellsInteger, hsplit, hlead, hafter, hd.1, hdot]

theorem integerValue_eq (h : IntegerSpelling w negative digits) :
    integerValue w = if Numeral.digitLimit < digits.length then .error (.tooManyDigits digits.length)
      else .ok (signedValue negative (decimalValue digits)) := by
  obtain ⟨hd, dot, hdot, hsplit, hlead, hafter⟩ := h.exists_dot
  simp only [integerValue, hsplit, hlead, hd.digitsValue_eq, signedValue]

end IntegerSpelling

theorem exists_integerSpelling {w : Text} (h : spellsInteger w = true) :
    ∃ negative digits, IntegerSpelling w negative digits := by
  obtain ⟨sign, hs, hw⟩ := Numeral.exists_signSpelling w
  unfold spellsInteger at h
  simp only [Bool.and_eq_true, Bool.not_eq_true', List.isEmpty_eq_false_iff, Bool.or_eq_true,
    decide_eq_true_eq] at h
  rw [hw, ← leadingDigits_append_afterDigits (Numeral.splitSign w).2]
  exact ⟨_, _, .intro hs (isDigits_leadingDigits h.1) h.2⟩

theorem spellsInteger_iff {w : Text} :
    spellsInteger w = true ↔ ∃ negative digits, IntegerSpelling w negative digits :=
  ⟨exists_integerSpelling, fun ⟨_, _, h⟩ => h.spellsInteger_eq⟩

/-! ## Floating-point numbers -/

namespace ExponentSpelling

variable {t : Text} {e : Exponent}

/-- An exponent begins with its letter. -/
theorem head?_eq (h : ExponentSpelling t e) : ∀ c ∈ t.head?, c = 'e' := by
  cases h with
  | absent => nofun
  | power | infinity | nan =>
    rintro c ⟨⟩
    rfl

theorem exponent?_eq (h : ExponentSpelling t e) (hne : t ≠ []) : exponent? t = some e := by
  cases h with
  | absent => exact absurd rfl hne
  | @power sign digits negative hs hd =>
    have hinf : sign ++ digits ≠ Text.of "+INF" :=
      hd.signed_ne hs (c := 'I') (by decide) (by decide) (by decide)
    have hnan : sign ++ digits ≠ Text.of "+NaN" :=
      hd.signed_ne hs (c := 'N') (by decide) (by decide) (by decide)
    have hsplit := hs.splitSign (t := digits) (by simpa using hd.head?_ne_sign [])
    have hall : digits.all CodePoint.isDecimalDigit = true := List.all_eq_true.2 hd.2
    rw [List.append_assoc]
    show exponent? (CodePoint.ofChar 'e' :: (sign ++ digits)) = _
    simp [exponent?, hinf, hnan, hsplit, hall, hd.1, hd.digitsValue_eq, signedValue]
  | infinity => rfl
  | nan => rfl

end ExponentSpelling

theorem exponentSpelling_of_exponent? {t : Text} {e : Exponent} (h : exponent? t = some e) :
    ExponentSpelling t e := by
  unfold exponent? at h
  split at h
  · cases h
  · rename_i c rest
    split at h
    · cases h
    · rename_i hc
      obtain rfl : c = CodePoint.ofChar 'e' := by simpa using hc
      split at h
      · rename_i hrest
        cases h
        rw [hrest]
        exact .infinity
      · split at h
        · rename_i hrest
          cases h
          rw [hrest]
          exact .nan
        · dsimp only at h
          split at h
          · cases h
          · rename_i hdigits
            obtain ⟨sign, hs, hrest⟩ := Numeral.exists_signSpelling rest
            have hd : IsDigits (Numeral.splitSign rest).2 := by
              simpa [IsDigits, not_or] using hdigits
            cases h
            rw [hd.digitsValue_eq]
            have hpower := ExponentSpelling.power hs hd
            rw [List.append_assoc, ← hrest] at hpower
            exact hpower

theorem MantissaSpelling.head?_ne_sign {mantissa whole fraction : Text}
    (h : MantissaSpelling mantissa whole fraction) (rest : Text) :
    ∀ c ∈ (mantissa ++ rest).head?, c ≠ '-' ∧ c ≠ '+' := by
  cases h with
  | both hw hf =>
    rw [List.append_assoc, List.append_assoc]
    exact hw.head?_ne_sign _
  | fraction hf =>
    rintro c ⟨⟩
    decide
  | whole hw => exact hw.head?_ne_sign rest

/-- Digits behind a dot make a number, with or without digits before it. -/
theorem floatLiteral?_of_fraction {w whole fraction power : Text} {negative : Bool}
    {exponent : Exponent} (hw : ∀ c ∈ whole, c.isDecimalDigit = true) (hf : IsDigits fraction)
    (he : ExponentSpelling power exponent)
    (hsplit : Numeral.splitSign w = (negative, whole ++ CodePoint.ofChar '.' :: (fraction ++ power))) :
    floatLiteral? w = some ⟨negative, whole, fraction, exponent⟩ := by
  have hdot : ∀ c ∈ (CodePoint.ofChar '.' :: (fraction ++ power)).head?, c.isDecimalDigit = false := by
    rintro c ⟨⟩
    decide
  have hpower : ∀ c ∈ power.head?, c.isDecimalDigit = false := by
    intro c hc
    rw [he.head?_eq c hc]
    decide
  unfold floatLiteral?
  simp only [hsplit, leadingDigits_append hw hdot, afterDigits_append hw hdot,
    leadingDigits_append hf.2 hpower, afterDigits_append hf.2 hpower, if_true,
    List.isEmpty_eq_false_iff.2 hf.1, Bool.false_eq_true, if_false]
  by_cases hnil : power = []
  · subst hnil
    cases he
    rfl
  · rw [if_neg (by simpa using hnil), he.exponent?_eq hnil]
    rfl

/-- Digits without a dot make a number if an exponent follows. -/
theorem floatLiteral?_of_whole {w whole power : Text} {negative : Bool} {exponent : Exponent}
    (hw : IsDigits whole) (he : ExponentSpelling power exponent) (hne : power ≠ [])
    (hsplit : Numeral.splitSign w = (negative, whole ++ power)) :
    floatLiteral? w = some ⟨negative, whole, [], exponent⟩ := by
  obtain ⟨c, rest, rfl⟩ := List.exists_cons_of_ne_nil hne
  obtain rfl := he.head?_eq c rfl
  have hletter : ∀ c ∈ (CodePoint.ofChar 'e' :: rest).head?, c.isDecimalDigit = false := by
    rintro c ⟨⟩
    decide
  unfold floatLiteral?
  simp only [hsplit, leadingDigits_append hw.2 hletter, afterDigits_append hw.2 hletter,
    if_neg (by decide : ¬CodePoint.ofChar 'e' = CodePoint.ofChar '.'),
    List.isEmpty_eq_false_iff.2 hw.1, Bool.false_eq_true, if_false, he.exponent?_eq hne]
  rfl

/-- What the grammar spells as a floating-point number is read as one, unless it is an integer. -/
theorem FloatSpelling.floatLiteral?_eq {w : Text} {l : FloatLiteral} (h : FloatSpelling w l)
    (hint : spellsInteger w = false) : floatLiteral? w = some l := by
  cases h with
  | @intro sign mantissa whole fraction power negative exponent hs hm he =>
    have hsplit := hs.splitSign (hm.head?_ne_sign power)
    cases hm with
    | both hw hf =>
      refine floatLiteral?_of_fraction hw.2 hf he ?_
      rw [hsplit, List.append_assoc, List.append_assoc]
      rfl
    | fraction hf =>
      exact floatLiteral?_of_fraction (nofun : ∀ c ∈ ([] : Text), c.isDecimalDigit = true) hf he hsplit
    | whole hw =>
      refine floatLiteral?_of_whole hw he ?_ hsplit
      rintro rfl
      have hinteger := IntegerSpelling.intro hs hw (.inl rfl)
      rw [hinteger.spellsInteger_eq] at hint
      cases hint

theorem mantissaSpelling_of_fraction {whole fraction : Text}
    (hw : ∀ c ∈ whole, c.isDecimalDigit = true) (hf : IsDigits fraction) :
    MantissaSpelling (whole ++ CodePoint.ofChar '.' :: fraction) whole fraction := by
  by_cases hnil : whole = []
  · rw [hnil]
    exact .fraction hf
  · have hboth := MantissaSpelling.both ⟨hnil, hw⟩ hf
    rw [List.append_assoc] at hboth
    exact hboth

theorem floatSpelling_of_floatLiteral? {w : Text} {l : FloatLiteral} (h : floatLiteral? w = some l) :
    FloatSpelling w l := by
  obtain ⟨sign, hs, hw⟩ := Numeral.exists_signSpelling w
  have hbody := leadingDigits_append_afterDigits (Numeral.splitSign w).2
  unfold floatLiteral? at h
  dsimp only at h
  rw [hw]
  split at h
  · cases h
  · rename_i c rest hafter
    rw [hafter] at hbody
    rw [← hbody]
    split at h
    · rename_i hdot
      split at h
      · cases h
      · rename_i hfraction
        have hm := mantissaSpelling_of_fraction
          (isDecimalDigit_of_mem_leadingDigits (t := (Numeral.splitSign w).2))
          (isDigits_leadingDigits (t := rest) (by simpa using hfraction))
        have htext := List.append_assoc (leadingDigits (Numeral.splitSign w).2)
          (CodePoint.ofChar '.' :: leadingDigits rest) (afterDigits rest)
        rw [List.cons_append, leadingDigits_append_afterDigits] at htext
        rw [hdot, ← htext]
        split at h
        · rename_i hend
          cases h
          rw [List.isEmpty_iff.1 hend]
          exact .intro hs hm .absent
        · obtain ⟨e, he, rfl⟩ := Option.map_eq_some_iff.1 h
          exact .intro hs hm (exponentSpelling_of_exponent? he)
    · split at h
      · cases h
      · rename_i hwhole
        obtain ⟨e, he, rfl⟩ := Option.map_eq_some_iff.1 h
        exact .intro hs (.whole (isDigits_leadingDigits (by simpa using hwhole)))
          (exponentSpelling_of_exponent? he)

/-! ## Tokens that stand alone -/

/-- Neither blanks nor comments begin like a token. -/
theorem skipBlanks_token (pos : Nat) {c : CodePoint} (rest : Text) (hb : isBlank c = false)
    (hd : isDelimiter c = false) : skipBlanks ⟨pos, c :: rest⟩ = .done () ⟨pos, c :: rest⟩ := by
  have hcomment : c ≠ ';' := by
    rintro rfl
    cases hd
  have hsign : c ≠ '#' := by
    rintro rfl
    cases hd
  rw [skipBlanks.eq_def]
  simp only [hb, Bool.false_eq_true, if_false, if_neg hcomment, if_neg hsign]

variable {known : CharacterNames}

/-- A text that is one token. -/
theorem TokenSpelling.readAll_eq {t name : Text} {escaped : Bool} (h : TokenSpelling t name escaped)
    (hne : t ≠ []) (hq : t.head? ≠ some (CodePoint.ofChar '?')) (hdot : t ≠ Text.of ".") :
    readAll t = match (Token.mk name escaped).form with
      | .ok f => .ok [.ofPiece 0 t.length (.ofAtom 0 t.length f)]
      | .error e => .error (.numeral name e) := by
  obtain ⟨c, body, rfl⟩ := List.exists_cons_of_ne_nil hne
  have hlex := h.lexemeAt (fun hc => hq (by rw [hc]; rfl)) hdot 0 (rfl : standsAlone [] = true)
  rw [List.append_nil, Nat.zero_add] at hlex
  cases hform : (Token.mk name escaped).form with
  | ok f =>
    rw [hform] at hlex
    exact readAll_of_lexemeAt h.first.1 h.ne_semicolon hlex
  | error e =>
    rw [hform] at hlex
    exact readAll_of_lexemeAt_failed (skipBlanks_token 0 body h.first.1 h.first.2) hlex

/-- With a backslash before one of its characters a token is the symbol of its name. -/
theorem readAll_escaped {w t : Text} (hq : w.head? ≠ some (CodePoint.ofChar '?'))
    (ht : TokenSpelling t w true) :
    readAll t = .ok [⟨.symbol (.intern w), .ofNat 0 t.length, [⟨.intern w, 0, t.length⟩]⟩] := by
  have hnotEmpty : t ≠ [] := by
    rintro rfl
    cases ht
  have hnotDot : t ≠ Text.of "." := by
    rintro rfl
    cases ht with
    | plain _ _ _ ht => cases ht
  have hnotCharacter : t.head? ≠ some (CodePoint.ofChar '?') := by
    cases ht with
    | plain => exact hq
    | escaped => exact (by decide : some (CodePoint.ofChar '\\') ≠ some (CodePoint.ofChar '?'))
  exact ht.readAll_eq hnotEmpty hnotCharacter hnotDot

/-- What a token without backslashes is read as, by the grammar. -/
inductive Classified (w : Text) : Except Fault (List Positioned) → Prop
  | integer {negative : Bool} {digits : Text} (h : IntegerSpelling w negative digits)
      (hfew : digits.length ≤ Numeral.digitLimit) :
      Classified w (.ok [⟨.int (signedValue negative (decimalValue digits)), .ofNat 0 w.length, []⟩])
  | tooManyDigits {negative : Bool} {digits : Text} (h : IntegerSpelling w negative digits)
      (hmany : Numeral.digitLimit < digits.length) :
      Classified w (.error (.numeral w (.tooManyDigits digits.length)))
  | float {l : FloatLiteral} (hint : ¬∃ negative digits, IntegerSpelling w negative digits)
      (h : FloatSpelling w l) : Classified w (.ok [⟨.float l.value, .ofNat 0 w.length, []⟩])
  | symbol (hint : ¬∃ negative digits, IntegerSpelling w negative digits)
      (hfloat : ¬∃ l, FloatSpelling w l) :
      Classified w
        (.ok [⟨.symbol (.intern w), .ofNat 0 w.length, [⟨.intern w, 0, w.length⟩]⟩])

theorem exists_classified (w : Text) : ∃ r, Classified w r := by
  by_cases hint : ∃ negative digits, IntegerSpelling w negative digits
  · obtain ⟨negative, digits, hs⟩ := hint
    rcases Nat.lt_or_ge Numeral.digitLimit digits.length with hmany | hfew
    · exact ⟨_, .tooManyDigits hs hmany⟩
    · exact ⟨_, .integer hs hfew⟩
  · by_cases hfloat : ∃ l, FloatSpelling w l
    · obtain ⟨l, hl⟩ := hfloat
      exact ⟨_, .float hint hl⟩
    · exact ⟨_, .symbol hint hfloat⟩

section

variable {w : Text} (h : IsToken w) (hne : w ≠ []) (hq : w.head? ≠ some (CodePoint.ofChar '?'))
  (hdot : w ≠ Text.of ".")

include h hne hq hdot

theorem Classified.readAll_eq {r : Except Fault (List Positioned)} (hr : Classified w r) :
    readAll w = r := by
  rw [h.spelling.readAll_eq hne hq hdot, Token.form]
  simp only [Bool.false_eq_true, if_false]
  cases hr with
  | integer hs hfew =>
    rw [if_pos hs.spellsInteger_eq, hs.integerValue_eq, if_neg (Nat.not_lt.2 hfew)]
    rfl
  | tooManyDigits hs hmany =>
    rw [if_pos hs.spellsInteger_eq, hs.integerValue_eq, if_pos hmany]
    rfl
  | float hint hl =>
    have hnot : ¬spellsInteger w = true := mt spellsInteger_iff.1 hint
    rw [if_neg hnot, hl.floatLiteral?_eq (Bool.eq_false_iff.2 hnot)]
    rfl
  | symbol hint hfloat =>
    have hnone : floatLiteral? w = none := Option.eq_none_iff_forall_ne_some.2 fun l hl =>
      hfloat ⟨l, floatSpelling_of_floatLiteral? hl⟩
    rw [if_neg (mt spellsInteger_iff.1 hint), hnone]
    rfl

theorem classified_iff [CharacterNames] {r : Except Fault (List Positioned)} :
    Classified w r ↔ readAll w = r := by
  refine ⟨fun hr => hr.readAll_eq h hne hq hdot, ?_⟩
  rintro rfl
  obtain ⟨r, hr⟩ := exists_classified w
  rwa [hr.readAll_eq h hne hq hdot]

end

end Reading

open Reading

section

variable {known : CharacterNames}

/-- A token that stands alone is an integer just if the grammar spells it as one, and if it has
too many digits it is refused with their number. It is a floating-point number just if the
grammar spells it as one and not as an integer, and else the symbol of its name, with one symbol
token. With a backslash before at least one of its characters it is always the symbol. -/
theorem token_read_by_grammar {w : Text} (h : IsToken w) (hne : w ≠ [])
    (hq : w.head? ≠ some (CodePoint.ofChar '?')) (hdot : w ≠ Text.of ".") :
    (∀ z, readAll w = .ok [⟨.int z, .ofNat 0 w.length, []⟩] ↔
      ∃ negative digits, IntegerSpelling w negative digits ∧ digits.length ≤ Numeral.digitLimit ∧
        z = signedValue negative (decimalValue digits)) ∧
    (∀ n, readAll w = .error (.numeral w (.tooManyDigits n)) ↔
      ∃ negative digits, IntegerSpelling w negative digits ∧ Numeral.digitLimit < digits.length ∧
        n = digits.length) ∧
    (∀ x, readAll w = .ok [⟨.float x, .ofNat 0 w.length, []⟩] ↔
      (¬∃ negative digits, IntegerSpelling w negative digits) ∧ ∃ l, FloatSpelling w l ∧ x = l.value) ∧
    (readAll w = .ok [⟨.symbol (.intern w), .ofNat 0 w.length, [⟨.intern w, 0, w.length⟩]⟩] ↔
      (¬∃ negative digits, IntegerSpelling w negative digits) ∧ ¬∃ l, FloatSpelling w l) ∧
    ∀ t, TokenSpelling t w true →
      readAll t = .ok [⟨.symbol (.intern w), .ofNat 0 t.length, [⟨.intern w, 0, t.length⟩]⟩] := by
  have hclass := fun r => classified_iff h hne hq hdot (r := r)
  refine ⟨fun z => ?_, fun n => ?_, fun x => ?_, ?_, fun t ht => readAll_escaped hq ht⟩
  · rw [← hclass]
    constructor
    · rintro (⟨hs, hfew⟩ | _ | _ | _)
      exact ⟨_, _, hs, hfew, rfl⟩
    · rintro ⟨_, _, hs, hfew, rfl⟩
      exact .integer hs hfew
  · rw [← hclass]
    constructor
    · rintro (_ | ⟨hs, hmany⟩ | _ | _)
      exact ⟨_, _, hs, hmany, rfl⟩
    · rintro ⟨_, _, hs, hmany, rfl⟩
      exact .tooManyDigits hs hmany
  · rw [← hclass]
    constructor
    · rintro (_ | _ | ⟨hint, hl⟩ | _)
      exact ⟨hint, _, hl, rfl⟩
    · rintro ⟨hint, _, hl, rfl⟩
      exact .float hint hl
  · rw [← hclass]
    constructor
    · rintro (_ | _ | _ | ⟨hint, hfloat⟩)
      exact ⟨hint, hfloat⟩
    · rintro ⟨hint, hfloat⟩
      exact .symbol hint hfloat

end

open SomeNames

theorem token_read_by_grammar_dotted :
    readAll (Text.of "-012.") = .ok [⟨.int (-12), .ofNat 0 5, []⟩] ∧
    readAll (Text.of "1.e5") =
      .ok [⟨.symbol (.intern (Text.of "1.e5")), .ofNat 0 4, [⟨.intern (Text.of "1.e5"), 0, 4⟩]⟩] ∧
    readAll (Text.of "-0\\12.") =
      .ok [⟨.symbol (.intern (Text.of "-012.")), .ofNat 0 6, [⟨.intern (Text.of "-012."), 0, 6⟩]⟩] := by
  obtain ⟨hint, _, _, _, hescaped⟩ := token_read_by_grammar (w := Text.of "-012.") (by decide)
    (by decide) (by decide) (by decide)
  obtain ⟨_, _, _, hsymbol, _⟩ := token_read_by_grammar (w := Text.of "1.e5") (by decide)
    (by decide) (by decide) (by decide)
  have hspell : IntegerSpelling (Text.of "-012.") true (Text.of "012") :=
    @IntegerSpelling.intro (Text.of "-") (Text.of "012") (Text.of ".") true .minus
      ⟨by decide, by decide⟩ (.inr rfl)
  refine ⟨(hint _).2 ⟨_, _, hspell, by decide, by decide⟩, hsymbol.2 ⟨?_, ?_⟩, hescaped _ ?_⟩
  · rw [← spellsInteger_iff]
    decide
  · rintro ⟨l, hl⟩
    cases hl.floatLiteral?_eq (by decide)
  · exact .plain (by decide) (by decide) (by decide) (.plain (by decide) (by decide) (by decide)
      (.escaped _ (.plain (by decide) (by decide) (by decide)
        (.plain (by decide) (by decide) (by decide) .nil))))

end LispXref
