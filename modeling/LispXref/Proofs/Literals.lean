-- What the printer writes for an atom, read back. Main statement: each literal is one
-- lexeme and denotes its atom, whatever stands around it, as long as nothing behind it
-- goes on a token.
import LispXref.Form.Printer
import LispXref.Proofs.Cut
import LispXref.Proofs.Digits
import LispXref.Proofs.Lasting

namespace LispXref.Reading

/-! ## Texts that denote a form -/

/-- Wherever the text stands before something that ends a token, the form is read from
it and from no more. -/
def Denotes [CharacterNames] (t : Text) (f : Form) : Prop :=
  ∀ text s rest, text.drop s = t ++ rest → standsAlone rest = true →
    ∃ p, Reads text s p (s + t.length) ∧ p.form = f

theorem Cursor.ofText_add {text t rest : Text} {s : Nat} (h : text.drop s = t ++ rest) :
    Cursor.ofText text (s + t.length) = ⟨s + t.length, rest⟩ := by
  rw [Cursor.ofText, ← List.drop_drop, h, List.drop_left]

variable {known : CharacterNames}

/-- The characters of a lexeme, in front of a text. -/
theorem LexemeAt.of_append (body : Text) {text rest : Text} {s : Nat} {c : CodePoint} {x : Lexeme}
    (ht : text.drop s = (c :: body) ++ rest) (hb : isBlank c = false) (hs : c ≠ ';')
    (h : Reading.lexemeAt s c (body ++ rest) = .done x ⟨s + (c :: body).length, rest⟩) :
    LexemeAt text s x (s + (c :: body).length) := by
  have hr : text.drop s = c :: (body ++ rest) := ht
  refine .of_lexemeAt hr hb hs ?_
  rw [h, Cursor.ofText_add ht]

/-- A text that is one atom denotes it. -/
theorem Denotes.of_lexemeAt {c : CodePoint} {body : Text} {f : Form} (hb : isBlank c = false)
    (hs : c ≠ ';')
    (h : ∀ s rest, standsAlone rest = true →
      Reading.lexemeAt s c (body ++ rest) = .done (.atom f) ⟨s + (c :: body).length, rest⟩) :
    Denotes (c :: body) f := by
  intro text s rest ht hrest
  refine ⟨_, (LexemeAt.of_append body ht hb hs (h s rest hrest)).reads_atom, ?_⟩
  cases f <;> rfl

/-! ## Tokens -/

/-- Characters that make up a token as they stand: no blank, delimiter or backslash. -/
def IsToken (t : Text) : Prop := ∀ c ∈ t, isBlank c = false ∧ isDelimiter c = false ∧ c ≠ '\\'

instance (t : Text) : Decidable (IsToken t) :=
  inferInstanceAs (Decidable (∀ c ∈ t, isBlank c = false ∧ isDelimiter c = false ∧ c ≠ '\\'))

/-- A text that spells a token of the given name: every character of the name as it stands or
behind a backslash. The flag tells whether there is a backslash. -/
inductive TokenSpelling : Text → Text → Bool → Prop
  | nil : TokenSpelling [] [] false
  | plain {c : CodePoint} {t name : Text} {escaped : Bool} (hb : isBlank c = false)
      (hd : isDelimiter c = false) (hc : c ≠ '\\') (h : TokenSpelling t name escaped) :
      TokenSpelling (c :: t) (c :: name) escaped
  | escaped (c : CodePoint) {t name : Text} {escaped : Bool} (h : TokenSpelling t name escaped) :
      TokenSpelling ('\\' :: c :: t) (c :: name) true

/-- A token spells itself. -/
theorem IsToken.spelling {t : Text} (h : IsToken t) : TokenSpelling t t false := by
  induction t with
  | nil => exact .nil
  | cons c t ih =>
    obtain ⟨hb, hd, hc⟩ := h c List.mem_cons_self
    exact .plain hb hd hc (ih fun d hd => h d (List.mem_cons_of_mem _ hd))

theorem TokenSpelling.readToken {t name : Text} {escaped : Bool} (h : TokenSpelling t name escaped)
    (pos : Nat) {rest : Text} (hrest : standsAlone rest = true) :
    readToken pos (t ++ rest) = .done ⟨name, escaped⟩ ⟨pos + t.length, rest⟩ := by
  induction h generalizing pos with
  | nil => exact readToken_of_standsAlone pos hrest
  | @plain c t name escaped hb hd hc h ih =>
    rw [List.cons_append, readToken_plain pos _ hc (by rw [hb, hd]; rfl), ih, List.length_cons,
      Nat.add_assoc, Nat.add_comm 1]
    rfl
  | @escaped c t name escaped h ih =>
    rw [List.cons_append, List.cons_append, readToken_escaped, ih, List.length_cons, List.length_cons,
      Nat.add_assoc, Nat.add_comm 2]
    rfl

theorem IsToken.readToken {t : Text} (h : IsToken t) (pos : Nat) {rest : Text}
    (hrest : standsAlone rest = true) :
    readToken pos (t ++ rest) = .done ⟨t, false⟩ ⟨pos + t.length, rest⟩ :=
  h.spelling.readToken pos hrest

/-- A token that does not begin like another lexeme is an atom. -/
theorem lexemeAt_token (pos : Nat) {c : CodePoint} {rest : Text} (hd : isDelimiter c = false)
    (hq : c ≠ '?') (hdot : ¬(c = '.' ∧ standsAlone rest = true)) :
    lexemeAt pos c rest = readAtom pos (c :: rest) := by
  simp only [isDelimiter, Bool.or_eq_false_iff, decide_eq_false_iff_not] at hd
  obtain ⟨⟨⟨⟨⟨⟨⟨⟨⟨h1, h2⟩, h3⟩, h4⟩, h5⟩, h6⟩, h7⟩, h8⟩, h9⟩, h10⟩ := hd
  simp [lexemeAt, isCloser, *]

namespace TokenSpelling

variable {c : CodePoint} {body name : Text} {escaped : Bool}

/-- The first character of a token is no blank and no delimiter, be it a backslash. -/
theorem first (h : TokenSpelling (c :: body) name escaped) :
    isBlank c = false ∧ isDelimiter c = false := by
  cases h with
  | plain hb hd => exact ⟨hb, hd⟩
  | escaped => decide

/-- What a token is as a lexeme. -/
theorem lexemeAt [CharacterNames] (h : TokenSpelling (c :: body) name escaped) (hq : c ≠ '?')
    (hdot : c :: body ≠ Text.of ".") (pos : Nat) {rest : Text} (hrest : standsAlone rest = true) :
    Reading.lexemeAt pos c (body ++ rest) = match (Token.mk name escaped).form with
      | .ok f => .done (.atom f) ⟨pos + (c :: body).length, rest⟩
      | .error e => .failed (.numeral name e) (pos + (c :: body).length) := by
  have halone : ¬(c = '.' ∧ standsAlone (body ++ rest) = true) := by
    rintro ⟨rfl, ha⟩
    -- Behind a lone dot the token would have to go on.
    cases h with
    | plain hb hd hc h =>
      cases body with
      | nil => exact hdot rfl
      | cons d body =>
        rw [List.cons_append, standsAlone, h.first.1, h.first.2] at ha
        cases ha
  have htoken := h.readToken pos hrest
  rw [List.cons_append] at htoken
  refine (lexemeAt_token pos h.first.2 hq halone).trans ((Outcome.bind_of_done htoken _).trans ?_)
  cases (Token.mk name escaped).form <;> rfl

theorem ne_semicolon (h : TokenSpelling (c :: body) name escaped) : c ≠ ';' := by
  rintro rfl
  cases h.first.2

end TokenSpelling

/-- A token with a form of its own denotes that form. -/
theorem IsToken.denotes {t : Text} {f : Form} (h : IsToken t) (hne : t ≠ [])
    (hq : t.head? ≠ some (CodePoint.ofChar '?')) (hdot : t ≠ Text.of ".")
    (hf : (Token.mk t false).form = .ok f) : Denotes t f := by
  obtain ⟨c, body, rfl⟩ := List.exists_cons_of_ne_nil hne
  have hspell := h.spelling
  refine .of_lexemeAt hspell.first.1 hspell.ne_semicolon fun s rest hrest => ?_
  rw [hspell.lexemeAt (fun hc => hq (by rw [hc]; rfl)) hdot s hrest, hf]

/-- A name that is read as the interned symbol of that name. -/
structure PlainName (name : Text) : Prop where
  token : IsToken name
  nonempty : name ≠ []
  notCharacter : name.head? ≠ some (CodePoint.ofChar '?')
  notDot : name ≠ Text.of "."
  notInteger : spellsInteger name = false
  notFloat : floatLiteral? name = none

theorem PlainName.denotes {name : Text} (h : PlainName name) :
    Denotes name (.symbol (.intern name)) := by
  refine h.token.denotes h.nonempty h.notCharacter h.notDot ?_
  simp [Token.form, h.notInteger, h.notFloat]

/-- An uninterned symbol may have any name that is a token, even a number's or none. -/
theorem IsToken.denotes_uninterned {name : Text} (h : IsToken name) :
    Denotes (Symbol.toText ⟨name, false⟩) (.symbol ⟨name, false⟩) := by
  have hcons : Symbol.toText ⟨name, false⟩ = CodePoint.ofChar '#' :: CodePoint.ofChar ':' :: name := rfl
  rw [hcons]
  refine .of_lexemeAt (by decide) (by decide) fun s rest hrest => ?_
  show readSymbol (s + 2) false (name ++ rest) = _
  rw [readSymbol, h.readToken (s + 2) hrest, List.length_cons, List.length_cons, Nat.add_assoc,
    Nat.add_comm 2]
  rfl

/-! ## Integers -/

theorem isToken_of_isDigitOf {base : Nat} {t : Text} (h : ∀ c ∈ t, c.isDigitOf base = true) :
    IsToken t := by
  intro c hc
  have hgoes := goesOn_of_isDigitOf (h c hc)
  have hv := CodePoint.isDigitOf_iff.1 (h c hc)
  rw [Bool.or_eq_false_iff] at hgoes
  refine ⟨hgoes.1, hgoes.2, ?_⟩
  rw [Ne, CodePoint.eq_ofChar_iff]
  simp only [Char.reduceToNat]
  omega

theorem isToken_ofNat (n : Nat) : IsToken (Text.ofNat n) :=
  isToken_of_isDigitOf (Text.isDigitOf_of_mem_ofNatBase (by decide : 2 ≤ 10) (by decide) n)

theorem leadingDigits_ofNat (n : Nat) : leadingDigits (Text.ofNat n) = Text.ofNat n :=
  List.takeWhile_eq_self_iff.2 (Text.isDecimalDigit_of_mem_ofNat n)

theorem afterDigits_ofNat (n : Nat) : afterDigits (Text.ofNat n) = [] :=
  List.dropWhile_eq_nil_iff.2 (Text.isDecimalDigit_of_mem_ofNat n)

theorem splitSign_ofInt (value : Int) :
    Numeral.splitSign (Text.ofInt value) = (decide (value < 0), Text.ofNat value.natAbs) := by
  have hunsigned : ∀ n, ∀ c ∈ (Text.ofNat n).head?, c ≠ '-' ∧ c ≠ '+' := fun n c hc =>
    Numeral.ne_sign_of_isDigitOf (CodePoint.isDigitOf_of_isDecimalDigit
      (Text.isDecimalDigit_of_mem_ofNat n c (List.mem_of_head? hc)))
  cases value with
  | ofNat n => exact Numeral.SignSpelling.none.splitSign (hunsigned n)
  | negSucc n =>
    rw [decide_eq_true (Int.negSucc_lt_zero n)]
    exact Numeral.SignSpelling.minus.splitSign (hunsigned (n + 1))

theorem spellsInteger_ofInt (value : Int) : spellsInteger (Text.ofInt value) = true := by
  have hne := Text.ofNat_ne_nil value.natAbs
  unfold spellsInteger
  rw [splitSign_ofInt]
  simp [leadingDigits_ofNat, afterDigits_ofNat, hne]

theorem integerValue_ofInt {value : Int} (h : value.natAbs < Nat.pow 10 Numeral.digitLimit) :
    integerValue (Text.ofInt value) = .ok value := by
  have hlen := Text.length_ofNat_le (by decide) h
  unfold integerValue
  simp only [splitSign_ofInt, leadingDigits_ofNat, Text.digitsValue_ofNat, if_neg (Nat.not_lt.2 hlen),
    decide_eq_true_eq]
  congr 1
  split <;> omega

theorem isToken_ofInt (value : Int) : IsToken (Text.ofInt value) := by
  cases value with
  | ofNat n => exact isToken_ofNat n
  | negSucc n =>
    intro c hc
    rcases List.mem_cons.1 hc with rfl | hc
    · decide
    · exact isToken_ofNat (n + 1) c hc

theorem denotes_int {value : Int} (h : value.natAbs < Nat.pow 10 Numeral.digitLimit) :
    Denotes (Text.ofInt value) (.int value) := by
  have hint := spellsInteger_ofInt value
  refine (isToken_ofInt value).denotes ?_ ?_ ?_ ?_
  · intro hnil
    rw [hnil] at hint
    cases hint
  · intro hq
    obtain ⟨t, ht⟩ := List.head?_eq_some_iff.1 hq
    rw [ht] at hint
    cases hint
  · intro hdot
    rw [hdot] at hint
    cases hint
  · simp only [Token.form, hint, integerValue_ofInt h, Bool.false_eq_true, if_false, if_true]
    rfl

/-! ## Strings -/

/-- The characters between the quotes of a string literal. -/
def escaped (value : Text) : Text :=
  value.flatMap fun c : CodePoint => if c = '\\' ∨ c = '\x22' then ['\\', c] else [c]

theorem printString_eq (value : Text) :
    Form.printString value = CodePoint.ofChar '\x22' :: (escaped value ++ Text.of "\x22") := rfl

theorem escaped_of_plain {value : Text} (h : ∀ c ∈ value, c ≠ '\x22' ∧ c ≠ '\\') :
    escaped value = value := by
  induction value with
  | nil => rfl
  | cons c value ih =>
    obtain ⟨hq, hb⟩ := h c List.mem_cons_self
    have htail := ih fun d hd => h d (List.mem_cons_of_mem _ hd)
    rw [escaped] at htail
    rw [escaped, List.flatMap_cons, htail, if_neg (by simp [hq, hb])]
    rfl

/-- An escaped backslash or quote stands for itself. -/
theorem readString_mark (pos : Nat) {c : CodePoint} (rest : Text) (hc : c = '\\' ∨ c = '\x22') :
    readString ⟨pos, '\\' :: c :: rest⟩ = (readString ⟨pos + 2, rest⟩).map (c :: ·) := by
  rcases hc with rfl | rfl
  · rw [readString_escape pos rest (by decide), readEscape_plain pos (by decide) (.inl (by decide))]
    rfl
  · rw [readString_escape pos rest (by decide), readEscape_plain pos (by decide) (.inl (by decide))]
    rfl

theorem readString_close (pos : Nat) (rest : Text) :
    readString ⟨pos, '\x22' :: rest⟩ = .done [] ⟨pos + 1, rest⟩ := by
  rw [readString.eq_def]
  simp

/-- Reading undoes the escapes of a string literal. -/
theorem readString_escaped [CharacterNames] (pos : Nat) (value rest : Text) :
    readString ⟨pos, escaped value ++ CodePoint.ofChar '\x22' :: rest⟩ =
      .done value ⟨pos + (escaped value).length + 1, rest⟩ := by
  induction value generalizing pos with
  | nil => exact readString_close pos rest
  | cons c value ih =>
    unfold escaped at ih ⊢
    rw [List.flatMap_cons, List.append_assoc, List.length_append]
    by_cases hc : c = '\\' ∨ c = '\x22'
    · rw [if_pos hc, List.cons_append, List.cons_append, List.nil_append, readString_mark pos _ hc, ih,
        Nat.add_assoc pos 2]
      rfl
    · rw [if_neg hc, List.cons_append, List.nil_append,
        readString_plain pos _ (fun h => hc (.inr h)) (fun h => hc (.inl h)), ih, Nat.add_assoc pos 1]
      rfl

theorem denotes_string (value : Text) : Denotes (Form.printString value) (.string value) := by
  rw [printString_eq]
  refine .of_lexemeAt (by decide) (by decide) fun s rest _ => ?_
  show (readString ⟨s + 1, escaped value ++ Text.of "\x22" ++ rest⟩).map
    (fun value => Lexeme.atom (.string value)) = _
  rw [List.append_assoc, show Text.of "\x22" ++ rest = CodePoint.ofChar '\x22' :: rest from rfl,
    readString_escaped]
  have hlen : (Text.of "\x22").length = 1 := rfl
  simp only [Outcome.map, List.length_cons, List.length_append, hlen, Outcome.done.injEq,
    Cursor.mk.injEq, and_true, true_and]
  omega

/-! ## Characters -/

theorem endsCharacter_of_standsAlone {rest : Text} (h : standsAlone rest = true) :
    ∀ c, rest.head? = some c → endsCharacter c = true := by
  intro c hc
  cases rest with
  | nil => cases hc
  | cons d rest =>
    cases hc
    rw [standsAlone] at h
    rw [endsCharacter, h]
    rfl

/-- A character literal whose code is read up to its end. -/
theorem denotes_char_of_readModified {body : Text} {code : Int}
    (h : ∀ pos rest, standsAlone rest = true →
      readModified pos (body ++ rest) = .done code ⟨pos + body.length, rest⟩) :
    Denotes ('?' :: body) (.char code) := by
  refine .of_lexemeAt (by decide) (by decide) fun s rest hrest => ?_
  have hlen : s + ('?' :: body : Text).length = s + 1 + body.length := by
    rw [List.length_cons]
    omega
  have hread : readCharacter s (body ++ rest) = .done (.char code) ⟨s + 1 + body.length, rest⟩ :=
    readCharacter_eq_done.2
      ⟨code, h (s + 1) rest hrest, rfl, endsCharacter_of_standsAlone hrest⟩
  show (readCharacter s (body ++ rest)).map Lexeme.atom = _
  rw [hread, hlen]
  rfl

/-- Hexadecimal digits are read to their end. -/
theorem readHex_ofNatBase (start pos n : Nat) {rest : Text} (hrest : standsAlone rest = true) :
    readHex start pos (Text.ofNatBase 16 n ++ rest) =
      .done n ⟨pos + (Text.ofNatBase 16 n).length, rest⟩ := by
  have hdigits := Text.isDigitOf_of_mem_ofNatBase (by decide : 2 ≤ 16) (by decide) n
  have hne : (Text.ofNatBase 16 n).isEmpty = false :=
    List.isEmpty_eq_false_iff.2 (Text.ofNatBase_ne_nil n)
  have hrun : (Text.ofNatBase 16 n ++ rest).takeWhile (CodePoint.isDigitOf 16) =
      Text.ofNatBase 16 n := by
    cases rest with
    | nil => simpa using hdigits
    | cons c rest =>
      refine takeWhile_append_cons hdigits ?_ rest
      rw [← Bool.not_eq_true]
      intro hc
      rw [standsAlone, goesOn_of_isDigitOf hc] at hrest
      cases hrest
  unfold readHex
  dsimp only
  rw [codeDigits_length, hrun, hne, readDigits, List.drop_left,
    Text.digitsValue_ofNatBase (by decide) (by decide)]
  rfl

theorem denotes_char {code : Int} (h0 : 0 ≤ code) (hb : code ≠ 92) :
    Denotes (Form.printChar code) (.char code) := by
  obtain ⟨n, rfl⟩ := Int.eq_ofNat_of_zero_le h0
  by_cases hv : 32 < n ∧ n < 127
  · have hprint : Form.printChar n = (['?', Char.ofNat n] : Text) := if_pos hv
    have hval : (CodePoint.ofChar (Char.ofNat n)).val = n := by
      have hall : ∀ n < 127, (CodePoint.ofChar (Char.ofNat n)).val = n := by decide
      exact hall n hv.2
    rw [hprint]
    refine denotes_char_of_readModified fun pos rest _ => ?_
    have hc : CodePoint.ofChar (Char.ofNat n) ≠ '\\' := by
      rw [Ne, CodePoint.eq_ofChar_iff, hval]
      simp only [Char.reduceToNat]
      omega
    rw [List.singleton_append, readModified, if_neg hc, hval]
    rfl
  · have hprint : Form.printChar n = CodePoint.ofChar '?' :: (Text.of "\\x" ++ Text.ofNatBase 16 n) :=
      if_neg hv
    rw [hprint]
    refine denotes_char_of_readModified fun pos rest hrest => ?_
    have hread : readEscape pos ('x' :: (Text.ofNatBase 16 n ++ rest)) =
        .done n ⟨pos + 2 + (Text.ofNatBase 16 n).length, rest⟩ := by
      rw [readEscape_plain pos (by decide) (.inl (by decide))]
      exact readHex_ofNatBase pos (pos + 2) n hrest
    rw [List.length_append, ← Nat.add_assoc]
    exact hread

/-! ## Bool-vectors -/

theorem parse_ofNat {n : Nat} (h : n < Nat.pow 10 Numeral.digitLimit) :
    Numeral.parse 10 (Text.ofNat n) = .ok n := by
  have hdigits := Text.isDecimalDigit_of_mem_ofNat n
  have hascii : (Text.ofNat n).map Numeral.toAscii = Text.ofNat n := by
    refine (List.map_congr_left fun c hc => ?_).trans (List.map_id _)
    have hv := CodePoint.isDecimalDigit_iff.1 (hdigits c hc)
    exact if_pos (by omega)
  have hrange : ∀ c ∈ Text.ofNat n, 48 ≤ (Numeral.toAscii c).val ∧ (Numeral.toAscii c).val ≤ 63 := by
    intro c hc
    have hv := CodePoint.isDecimalDigit_iff.1 (hdigits c hc)
    rw [show Numeral.toAscii c = c from if_pos (by omega)]
    omega
  have hmagnitude : Numeral.magnitude 10 (Text.ofNat n) = .ok n := by
    rw [Numeral.magnitude_of_digits (Text.ofNat_ne_nil n)
      (fun c hc => CodePoint.isDigitOf_of_isDecimalDigit (hdigits c hc))
      (.inr (Text.length_ofNat_le (by decide) h)), Text.digitsValue_ofNat]
  rw [Numeral.parse_ten (Text.ofNat_ne_nil n) hrange, hascii, hmagnitude]
  rfl

theorem print_boolVector (length : Nat) (data : Text) :
    (Form.boolVector length data).print = CodePoint.ofChar '#' :: CodePoint.ofChar '&' ::
      (Text.ofNat length ++ CodePoint.ofChar '\x22' :: (data ++ Text.of "\x22")) := by
  simp [Form.print, Text.of]

/-- A printed length and what stands between the quotes. -/
theorem readBoolVector_printed (start length : Nat) (rest : Text) :
    readBoolVector start (Text.ofNat length ++ CodePoint.ofChar '\x22' :: rest) =
      (readString ⟨start + (2 + (Text.ofNat length).length + 1), rest⟩).bind fun data next =>
        match Numeral.parse 10 (Text.ofNat length) with
        | .ok n => .done (.atom (.boolVector n.toNat data)) next
        | .error e => .failed (.numeral (Text.ofNat length) e) next.pos := by
  have hdigits : ∀ c ∈ Text.ofNat length, c.isDigit = true := fun c hc =>
    CodePoint.isDigit_of_isDecimalDigit (Text.isDecimalDigit_of_mem_ofNat length c hc)
  have hne : (Text.ofNat length).isEmpty = false :=
    List.isEmpty_eq_false_iff.2 (Text.ofNat_ne_nil length)
  exact (readBoolVector_run start rest hdigits (by decide)).trans (if_neg (by simp [hne]))

theorem denotes_boolVector {length : Nat} {data : Text} (hl : length < Nat.pow 10 Numeral.digitLimit)
    (hd : ∀ c ∈ data, c ≠ '\x22' ∧ c ≠ '\\') :
    Denotes (Form.boolVector length data).print (.boolVector length data) := by
  rw [print_boolVector]
  refine .of_lexemeAt (by decide) (by decide) fun s rest _ => ?_
  have hread := readString_escaped (s + (2 + (Text.ofNat length).length + 1)) data rest
  rw [escaped_of_plain hd] at hread
  have hbody : Text.ofNat length ++ CodePoint.ofChar '\x22' :: (data ++ Text.of "\x22") ++ rest =
      Text.ofNat length ++ CodePoint.ofChar '\x22' :: (data ++ CodePoint.ofChar '\x22' :: rest) := by
    simp [Text.of]
  show readBoolVector s
    (Text.ofNat length ++ CodePoint.ofChar '\x22' :: (data ++ Text.of "\x22") ++ rest) = _
  rw [hbody, readBoolVector_printed, Outcome.bind_of_done hread, parse_ofNat hl]
  have hlen : (Text.of "\x22").length = 1 := rfl
  simp only [List.length_cons, List.length_append, hlen, Int.toNat_natCast, Outcome.done.injEq,
    Cursor.mk.injEq, and_true, true_and]
  omega

end LispXref.Reading
