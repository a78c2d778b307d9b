-- Literals that were read, printed and read again. Main statement: of the strings,
-- characters, bool-vectors and integers in the forms of a text, exactly those that are
-- printed without an escape they need, or with a sign, are not read back.
import LispXref.Proofs.Printing
import LispXref.Reading.SomeNames

namespace LispXref

open Reading

namespace Form

/-! ## Literals -/

/-- A form stands in another one: it is the form itself, or it stands in an element. -/
inductive Occurs (f : Form) : Form → Prop
  | here : Occurs f f
  | inside {g e : Form} (he : e ∈ g.elements) (h : Occurs f e) : Occurs f g

/-- Strings, characters, bool-vectors, and integers that have no more digits than are
written. -/
inductive Literal : Form → Prop
  | string (value : Text) : Literal (.string value)
  | char (code : Int) : Literal (.char code)
  | boolVector (length : Nat) (data : Text) : Literal (.boolVector length data)
  | int {value : Int} (h : value.natAbs < Nat.pow 10 Numeral.digitLimit) : Literal (.int value)

/-- The literals that are printed amiss. A backslash stands unescaped behind the question
mark, a negative code has its sign among hexadecimal digits, and a double quote or a
backslash stands unescaped between the quotes of a bool-vector. -/
def isMisprinted : Form → Bool
  | .char code => code = 92 || code < 0
  | .boolVector _ data => data.any fun c => c = '\x22' || c = '\\'
  | _ => false

theorem Literal.isCompound_eq {f : Form} (h : Literal f) : f.isCompound = false := by
  cases h <;> rfl

variable {known : CharacterNames}

theorem Literal.printable {f : Form} (h : Literal f) (hr : Readable f)
    (hm : f.isMisprinted = false) : Printable f := by
  cases h with
  | string value => exact .string value
  | int h => exact .int h
  | char code =>
    simp only [isMisprinted, Bool.or_eq_false_iff, decide_eq_false_iff_not] at hm
    exact .char (Int.not_lt.1 hm.2) hm.1
  | boolVector length data =>
    cases hr with
    | boolVector _ hl =>
      refine .boolVector hl fun c hc => ?_
      have hplain := List.any_eq_false.1 hm c hc
      simpa using hplain

theorem Literal.toSource_eq {f : Form} (h : Literal f) (hr : Readable f) :
    f.toSource = .ok f.print := by
  refine if_pos ?_
  cases h with
  | string | char => rfl
  | int h => exact decide_eq_true h
  | boolVector length data =>
    cases hr with
    | boolVector _ hl => exact decide_eq_true hl

end Form

namespace Reading

/-! ## Atoms that are read -/

theorem Bracket.compound_or_string {b : Bracket} {items : List Form} {tail : Option Form} {f : Form}
    (h : b.form? items tail = some f) : f.isCompound = true ∨ ∃ value, f = .string value := by
  cases b with
  | list =>
    cases tail with
    | none => exact .inl (Option.some.inj h ▸ rfl)
    | some t => exact .inl (Option.some.inj h ▸ rfl)
  | vector kind => exact .inl (Option.some.inj h ▸ rfl)
  | propertied =>
    unfold form? at h
    dsimp only at h
    split at h
    · exact .inr ⟨_, (Option.some.inj h).symm⟩
    · cases h

variable {known : CharacterNames}

/-- An atom is one lexeme, unless it is a string, which may have text properties. -/
theorem Laid.lexemeAt_atom {text : Text} {l : Layout} (h : Laid text l)
    (hc : l.form.isCompound = false) (hs : ∀ value, l.form ≠ .string value) :
    LexemeAt text l.start (.atom l.form) l.stop := by
  cases h with
  | @atom s e f hx =>
    show LexemeAt text s (.atom (Piece.ofAtom s e f).form) e
    rw [Piece.form_ofAtom]
    exact hx
  | shorthand => cases hc
  | @bracket s q e b items tail p hx hin hfirst hall hb =>
    obtain ⟨hf, _⟩ := Bracket.build_eq_done.1 hb
    rcases Bracket.compound_or_string hf with hcompound | ⟨value, hvalue⟩
    · rw [show p.form.isCompound = false from hc] at hcompound
      cases hcompound
    · exact absurd hvalue (hs value)

/-- An atom in a form is one lexeme of the text, unless it is a string, or the symbol of a
shorthand mark. -/
theorem Laid.exists_lexemeAt_of_occurs {text : Text} {l : Layout} (h : Laid text l) {f : Form}
    (hf : f.Occurs l.form) (hc : f.isCompound = false) :
    (∃ s, f = .symbol s) ∨ (∃ value, f = .string value) ∨ ∃ s e, LexemeAt text s (.atom f) e := by
  revert hf
  refine h.induction_on_parts (P := fun l => f.Occurs l.form → _) ?_ ?_
  · intro m s q _ hf
    cases hf with
    | here => exact .inl ⟨_, rfl⟩
    | inside he => cases he
  · intro l hl ih hf
    generalize hg : l.form = g at hf
    cases hf with
    | here =>
      by_cases hs : ∃ value, f = .string value
      · exact .inr (.inl hs)
      · have hx := hl.lexemeAt_atom (by rw [hg, hc]) fun value hv => hs ⟨value, hg ▸ hv⟩
        exact .inr (.inr ⟨l.start, l.stop, hg ▸ hx⟩)
    | inside he hin =>
      rw [← hg, ← hl.parts_form, List.mem_map] at he
      obtain ⟨l', hl', rfl⟩ := he
      exact ih l' hl' hin

theorem LexemeAt.readable {text : Text} {s e : Nat} {x : Lexeme} (h : LexemeAt text s x e) :
    x.Readable s (text.drop s) (.ofText text e) := by
  obtain ⟨c, rest, hr, _, _, _, hread⟩ := h.lexemeAt
  rw [hr]
  exact lexemeAt_readable _ _ _ _ _ hread

theorem Laid.readable_of_occurs {text : Text} {l : Layout} (h : Laid text l) {f : Form}
    (hf : f.Occurs l.form) (hc : f.isCompound = false) : f.Readable := by
  rcases h.exists_lexemeAt_of_occurs hf hc with ⟨s, rfl⟩ | ⟨value, rfl⟩ | ⟨s, e, hx⟩
  · exact .symbol s
  · exact .string value
  · exact hx.readable.form

/-! ## Texts that start with a literal -/

theorem exists_nextForm_of_readAll {text : Text} {p : Positioned} {ps : List Positioned}
    (h : readAll text = .ok (p :: ps)) : ∃ next, nextForm ⟨0, text⟩ = .done (some p) next := by
  unfold readAll at h
  rw [readForms.eq_def] at h
  split at h
  · rename_i hr
    cases h
    split at hr
    · rename_i q next hn
      split at hr
      · cases hr
        exact ⟨next, hn⟩
      · cases hr
    all_goals cases hr
  · cases h

/-- A text that is read as an atom and has no blank in front begins with the atom. -/
theorem exists_lexemeAt_of_readAll {c : CodePoint} {rest : Text} {p : Positioned}
    {ps : List Positioned} (h : readAll (c :: rest) = .ok (p :: ps))
    (hskip : skipBlanks ⟨0, c :: rest⟩ = .done () ⟨0, c :: rest⟩)
    (hc : p.form.isCompound = false) (hs : ∀ value, p.form ≠ .string value) :
    ∃ next, lexemeAt 0 c rest = .done (.atom p.form) next := by
  obtain ⟨next, hn⟩ := exists_nextForm_of_readAll h
  obtain ⟨l, hl, hg, rfl, _⟩ := exists_laid_of_nextForm (q := 0) hn
  have hgap : Outcome.done () ⟨0, c :: rest⟩ = Outcome.done () (Cursor.ofText (c :: rest) l.start) :=
    hskip.symm.trans hg
  have hstart : l.start = 0 := by
    have hcur := (Outcome.done.inj hgap).2
    exact (congrArg Cursor.pos hcur).symm
  have hx := hl.lexemeAt_atom hc hs
  rw [hstart] at hx
  obtain ⟨d, t, ht, _, _, _, hread⟩ := hx.lexemeAt
  cases ht
  exact ⟨_, hread⟩

/-- A string has at least as many characters between its quotes as it stands for, and as
many only if nothing between them is escaped. -/
theorem readString_length {cur next : Cursor} {value : Text}
    (h : readString cur = .done value next) :
    value.length + 1 + next.rest.length ≤ cur.rest.length ∧
      (value.length + 1 + next.rest.length = cur.rest.length →
        ∀ c ∈ value, c ≠ '\x22' ∧ c ≠ '\\') := by
  fun_induction readString cur generalizing value next with
  | case1 | case4 | case7 | case8 => cases h
  | case2 cur rest hr =>
    cases h
    simp only [hr, List.length_cons, List.length_nil]
    exact ⟨by omega, fun _ c hc => absurd hc List.not_mem_nil⟩
  | case3 cur c rest hr hq hb ih =>
    obtain ⟨value, hv, rfl⟩ := Outcome.map_eq_done.1 h
    obtain ⟨hle, hplain⟩ := ih hv
    simp only [hr, List.length_cons] at hle hplain ⊢
    refine ⟨by omega, fun heq d hd => ?_⟩
    rcases List.mem_cons.1 hd with rfl | hd
    · exact ⟨hq, by simpa using hb⟩
    · exact hplain (by omega) d hd
  | case5 cur c _ _ d rest hr _ _ ih =>
    obtain ⟨hle, _⟩ := ih h
    simp only [hr, List.length_cons] at hle ⊢
    refine ⟨by omega, fun heq => ?_⟩
    omega
  | case6 cur c _ _ d rest hr _ code mid he _ ih =>
    obtain ⟨value, hv, rfl⟩ := Outcome.map_eq_done.1 h
    obtain ⟨hle, _⟩ := ih hv
    obtain ⟨taken, htaken, _⟩ := readEscape_local d rest cur.pos code mid he
    have hmid : mid.rest.length ≤ rest.length := by simp [htaken]
    simp only [hr, List.length_cons] at hle ⊢
    refine ⟨by omega, fun heq => ?_⟩
    omega

/-- Behind the opening quote of a printed bool-vector stand its data and one more quote, so
it is read back only if nothing in the data counts as an escape. -/
theorem plain_of_readAll_boolVector {length : Nat} {data : Text} {p : Positioned}
    (h : readAll (Form.boolVector length data).print = .ok [p])
    (hp : p.form = .boolVector length data) : ∀ c ∈ data, c ≠ '\x22' ∧ c ≠ '\\' := by
  rw [print_boolVector] at h
  obtain ⟨next, hx⟩ := exists_lexemeAt_of_readAll h (by rw [skipBlanks.eq_def]; rfl)
    (by rw [hp]; rfl) (by rw [hp]; exact nofun)
  change readBoolVector 0 _ = _ at hx
  rw [readBoolVector_printed] at hx
  obtain ⟨value, mid, hvalue, hx⟩ := Outcome.bind_eq_done.1 hx
  split at hx
  · rw [hp] at hx
    cases hx
    obtain ⟨hle, hplain⟩ := readString_length hvalue
    have hquote : (Text.of "\x22").length = 1 := rfl
    rw [List.length_append, hquote] at hle hplain
    exact hplain (by omega)
  · cases hx

/-- A printed character is read back only from a code that is not negative and no backslash. -/
theorem code_of_readAll_char {code : Int} {p : Positioned}
    (h : readAll (Form.char code).print = .ok [p]) (hp : p.form = .char code) :
    0 ≤ code ∧ code ≠ 92 := by
  constructor
  · by_contra hneg
    obtain ⟨n, rfl⟩ := Int.eq_negSucc_of_lt_zero (Int.not_le.1 hneg)
    have hprint : (Form.char (.negSucc n)).print =
        CodePoint.ofChar '?' :: (Text.of "\\x-" ++ Text.ofNatBase 16 (n + 1)) := rfl
    rw [hprint] at h
    obtain ⟨next, hx⟩ := exists_lexemeAt_of_readAll h (by rw [skipBlanks.eq_def]; rfl)
      (by rw [hp]; rfl) (by rw [hp]; exact nofun)
    have hmap : (readCharacter 0 (Text.of "\\x-" ++ Text.ofNatBase 16 (n + 1))).map Lexeme.atom =
        .done (.atom p.form) next := hx
    obtain ⟨f, hf, _⟩ := Outcome.map_eq_done.1 hmap
    obtain ⟨code, hcode, _⟩ := readCharacter_eq_done.1 hf
    -- A minus sign is no hexadecimal digit.
    cases hcode
  · rintro rfl
    have hprint : (Form.char 92).print = CodePoint.ofChar '?' :: Text.of "\\" := rfl
    rw [hprint] at h
    obtain ⟨next, hx⟩ := exists_lexemeAt_of_readAll h (by rw [skipBlanks.eq_def]; rfl)
      (by rw [hp]; rfl) (by rw [hp]; exact nofun)
    have hmap : (readCharacter 0 (Text.of "\\")).map Lexeme.atom = .done (.atom p.form) next := hx
    -- Nothing follows the backslash.
    cases hmap

end Reading

namespace Form

/-! ## Literals read back -/

variable {known : CharacterNames}

theorem Literal.isMisprinted_of_readAll {f : Form} {p : Positioned} (hl : Literal f)
    (h : readAll f.print = .ok [p]) (hp : p.form = f) : f.isMisprinted = false := by
  cases hl with
  | string | int => rfl
  | char code =>
    obtain ⟨h0, hb⟩ := code_of_readAll_char h hp
    simp [isMisprinted, hb, h0]
  | boolVector length data =>
    have hplain := plain_of_readAll_boolVector h hp
    refine List.any_eq_false.2 fun c hc => ?_
    simpa using hplain c hc

theorem Printable.exists_readAll_print {f : Form} (h : Printable f) :
    ∃ p, readAll f.print = .ok [p] ∧ p.form = f := by
  obtain ⟨p, hp, hform⟩ := h.denotes f.print 0 [] (by simp) rfl
  rw [Nat.zero_add] at hp
  exact ⟨_, readAll_of_reads hp, hform⟩

end Form

section

variable {known : CharacterNames}

/-- Every literal in the forms of a text is printed, and the printed text is read as exactly
that literal if and only if it is not printed amiss. -/
theorem literal_reads_back_iff {text : Text} {forms : List Positioned} {top : Positioned}
    {f : Form} (h : readAll text = .ok forms) (htop : top ∈ forms) (hf : f.Occurs top.form)
    (hl : f.Literal) :
    ∃ source, f.toSource = .ok source ∧
      ((∃ p, readAll source = .ok [p] ∧ p.form = f) ↔ f.isMisprinted = false) := by
  obtain ⟨ls, hall, _, rfl⟩ := exists_row_of_readAll h
  obtain ⟨l, hmem, rfl⟩ := List.mem_map.1 htop
  have hread : f.Readable := (hall l hmem).readable_of_occurs hf hl.isCompound_eq
  refine ⟨f.print, hl.toSource_eq hread, ?_, fun hm => ?_⟩
  · rintro ⟨p, hp, hform⟩
    exact hl.isMisprinted_of_readAll hp hform
  · exact (hl.printable hread hm).exists_readAll_print

end

open SomeNames

/-- In the list `("a\"" [#&1"\""])` the string is read back and the bool-vector is not. -/
theorem literal_reads_back_iff_two_quotes :
    (∃ source, (Form.string (Text.of "a\"")).toSource = .ok source ∧
      ∃ p, readAll source = .ok [p] ∧ p.form = .string (Text.of "a\"")) ∧
    ∃ source, (Form.boolVector 1 (Text.of "\"")).toSource = .ok source ∧
      ¬∃ p, readAll source = .ok [p] ∧ p.form = .boolVector 1 (Text.of "\"") := by
  have hread : readAll (Text.of "(\"a\\\"\" [#&1\"\\\"\"])") =
      .ok [⟨.list [.string (Text.of "a\""), .vector .plain [.boolVector 1 (Text.of "\"")]],
        .ofNat 0 17, []⟩] := by decide +kernel
  obtain ⟨source, hsource, hback⟩ := literal_reads_back_iff (f := .string (Text.of "a\"")) hread
    List.mem_cons_self (.inside List.mem_cons_self .here) (.string _)
  obtain ⟨source', hsource', hback'⟩ :=
    literal_reads_back_iff (f := .boolVector 1 (Text.of "\"")) hread List.mem_cons_self
      (.inside (List.mem_cons_of_mem _ List.mem_cons_self) (.inside List.mem_cons_self .here))
      (.boolVector _ _)
  refine ⟨⟨source, hsource, hback.2 rfl⟩, source', hsource', fun hp => ?_⟩
  exact absurd (hback'.1 hp) (by decide)

/-- The escaped backslash is read as a character, and what is printed for the character holds
no form. -/
theorem backslash_character_lost :
    (∃ occurrences, readAll (Text.of "?\\\\") = .ok [⟨.char 92, .ofNat 0 3, occurrences⟩]) ∧
    (Form.char 92).Literal ∧
    (Form.char 92).toSource = .ok (Text.of "?\\") ∧ readAll (Text.of "?\\") = .ok [] := by
  refine ⟨⟨[], by decide +kernel⟩, .char 92, by decide +kernel, by decide +kernel⟩

end LispXref
