-- How reading fails. A text is refused at an offset, unless it has a snag: something
-- that is taken for a number or for the name of a character and then is none. Main
-- statement: without snags every failure is a refusal, so a search that passes over
-- malformed files comes to its end.
import LispXref.Proofs.Failures
import LispXref.Proofs.Numeral
import LispXref.Proofs.Pieces
import LispXref.Reading.SomeNames

namespace LispXref

namespace Reading

/-! ## Snags -/

/-- The marks that a count or a radix follows. -/
def countMarks : List Text := [Text.of "#", Text.of "#@", Text.of "#&"]

/-- The name of a character stands between the braces of `\N` in the text. -/
def NamedIn (text name : Text) : Prop :=
  CodePoint.ofChar '\x7d' ∉ name ∧ Text.of "\\N\x7b" ++ name ++ Text.of "\x7d" <:+: text

/-- A text has something that reading stumbles over. -/
inductive Snag [CharacterNames] (text : Text) : Prop
  /-- A digit without a decimal value, such as `²`, where a count or a radix stands. -/
  | strayDigit {mark digits : Text} {c : CodePoint} : mark ∈ countMarks → mark ++ digits <:+: text →
      (∀ d ∈ digits, d.isDigit = true) → c ∈ digits → c.decimalValue? = none → Snag text
  /-- More digits in a row than any number may have. -/
  | longRun {digits : Text} : digits <:+: text → (∀ d ∈ digits, d.isDigit = true) →
      Numeral.digitLimit < digits.length → Snag text
  /-- A name that stands for a sequence and not for one character. -/
  | sequenceName {name characters : Text} : NamedIn text name →
      CharacterNames.lookup? (spacedName name) = some characters → characters.length ≠ 1 → Snag text
  /-- A name with a surrogate in it. -/
  | surrogateName {name : Text} {c : CodePoint} : NamedIn text name → c ∈ name →
      c.isSurrogate = true → Snag text

variable {known : CharacterNames}

theorem Snag.mono {t u : Text} (h : Snag t) (htu : t <:+: u) : Snag u := by
  cases h with
  | strayDigit hm hi hd hc hv => exact .strayDigit hm (hi.trans htu) hd hc hv
  | longRun hi hd hl => exact .longRun (hi.trans htu) hd hl
  | sequenceName hi hn hl => exact .sequenceName ⟨hi.1, hi.2.trans htu⟩ hn hl
  | surrogateName hi hc hs => exact .surrogateName ⟨hi.1, hi.2.trans htu⟩ hc hs

/-- A count that is no numeral is a snag. -/
theorem snag_of_count {mark t : Text} {e : Numeral.Error} (hm : mark ∈ countMarks)
    (hne : t.takeWhile CodePoint.isDigit ≠ [])
    (h : Numeral.parse 10 (t.takeWhile CodePoint.isDigit) = .error e) : Snag (mark ++ t) := by
  have hdigits : ∀ d ∈ t.takeWhile CodePoint.isDigit, d.isDigit = true :=
    List.all_eq_true.1 List.all_takeWhile
  have hin : mark ++ t.takeWhile CodePoint.isDigit <:+: mark ++ t :=
    ((List.prefix_append_right_inj mark).2 (List.takeWhile_prefix _)).isInfix
  by_cases hstray : ∃ c ∈ t.takeWhile CodePoint.isDigit, c.decimalValue? = none
  · obtain ⟨c, hc, hv⟩ := hstray
    exact .strayDigit hm hin hdigits hc hv
  · refine .longRun ((List.suffix_append mark _).isInfix.trans hin) hdigits ?_
    by_contra hl
    have hvalues : ∀ c ∈ t.takeWhile CodePoint.isDigit, c.decimalValue?.isSome = true := by
      intro c hc
      rw [Option.isSome_iff_ne_none]
      exact fun hv => hstray ⟨c, hc, hv⟩
    rw [Numeral.parse_of_decimalDigits hne hvalues (Nat.not_lt.1 hl)] at h
    cases h

theorem Cursor.Reaches.rest_within {a b : Cursor} (h : a.Reaches b) : b.rest <:+: a.rest := by
  obtain ⟨taken, ht, _⟩ := h
  rw [ht]
  exact (List.suffix_append taken b.rest).isInfix

/-! ## Failures -/

/-- The text is refused at an offset. -/
def Fault.Refuses (fault : Fault) : Prop := ∃ offset reason, fault = .malformed offset reason

/-- Every failure is a refusal, unless a text has a snag. -/
def Outcome.Accounted [CharacterNames] {α : Type} (t : Text) (o : Outcome α) : Prop :=
  ∀ fault stop, o = .failed fault stop → fault.Refuses ∨ Snag t

namespace Outcome.Accounted

variable {α β : Type} {t u : Text}

theorem done (a : α) (next : Cursor) : (Outcome.done a next).Accounted t := nofun

theorem truncated (stop : Nat) : (Outcome.truncated stop : Outcome α).Accounted t := nofun

theorem malformed (offset : Nat) (reason : Reason) (stop : Nat) :
    (Outcome.malformed offset reason stop : Outcome α).Accounted t := by
  rintro _ _ ⟨⟩
  exact .inl ⟨offset, reason, rfl⟩

theorem failed {fault : Fault} {stop : Nat} (h : Snag t) :
    (Outcome.failed fault stop : Outcome α).Accounted t := fun _ _ _ => .inr h

/-- What accounts for a failure in a part of a text accounts for it in the text. -/
theorem of_part {o : Outcome α} (h : o.Accounted t) (htu : t <:+: u) : o.Accounted u := by
  intro fault stop hf
  rcases h fault stop hf with hm | hs
  · exact .inl hm
  · exact .inr (hs.mono htu)

theorem of_suffix {o : Outcome α} (h : o.Accounted t) (htu : t <:+ u) : o.Accounted u :=
  h.of_part htu.isInfix

theorem of_reaches {a b : Cursor} {o : Outcome α} (h : o.Accounted b.rest) (hab : a.Reaches b) :
    o.Accounted a.rest :=
  h.of_part hab.rest_within

theorem ite {p : Prop} [Decidable p] {a b : Outcome α} (ha : p → a.Accounted t)
    (hb : ¬p → b.Accounted t) : (if p then a else b).Accounted t := by
  by_cases h : p
  · rw [if_pos h]
    exact ha h
  · rw [if_neg h]
    exact hb h

theorem map {o : Outcome α} (h : o.Accounted t) (f : α → β) : (o.map f).Accounted t := by
  intro fault stop hf
  cases o with
  | done a next => cases hf
  | truncated n => cases hf
  | failed e n =>
    cases hf
    exact h _ _ rfl

theorem bind {o : Outcome α} {f : α → Cursor → Outcome β} (h : o.Accounted t)
    (hf : ∀ a mid, o = .done a mid → (f a mid).Accounted t) : (o.bind f).Accounted t := by
  intro fault stop hb
  cases o with
  | done a mid => exact hf a mid rfl fault stop hb
  | truncated n => cases hb
  | failed e n =>
    cases hb
    exact h _ _ rfl

end Outcome.Accounted

/-! ## Blanks -/

theorem skipBlock_accounted (mark : Nat) (t : Text) :
    (skipBlock mark t).Accounted (Text.of "#@" ++ t) := by
  unfold skipBlock
  dsimp only
  refine .ite (fun _ => .malformed _ _ _) fun hne => .ite (fun _ => .done _ _) fun _ => ?_
  split
  · rename_i e he
    exact .failed (snag_of_count (by decide) (by simpa using hne) he)
  · exact .done _ _

theorem skipBlanks_accounted (cur : Cursor) : (skipBlanks cur).Accounted cur.rest := by
  fun_induction skipBlanks cur with
  | case1 | case4 | case9 | case10 => exact .done _ _
  | case7 => exact .truncated _
  | case2 cur c rest h _ ih => exact ih.of_reaches (Cursor.reaches_of_rest [c] h)
  | case3 cur rest h _ ih =>
    exact (ih.of_reaches (reaches_afterLine _ _)).of_reaches (Cursor.reaches_of_rest [_] h)
  | case5 cur rest _ _ _ h ih =>
    exact (ih.of_reaches (reaches_afterLine _ _)).of_reaches (Cursor.reaches_of_rest [_, _] h)
  | case6 cur rest next hb _ _ _ _ h ih =>
    exact (ih.of_reaches (skipBlock_from _ _ () next hb)).of_reaches
      (Cursor.reaches_of_rest [_, _] h)
  | case8 cur rest fault stop hb _ _ _ _ h =>
    rw [h, ← hb]
    exact skipBlock_accounted _ _

/-! ## Tokens -/

theorem readToken_accounted (pos : Nat) (t u : Text) : (readToken pos t).Accounted u := by
  fun_induction readToken pos t with
  | case1 | case4 => exact .done _ _
  | case2 => exact .truncated _
  | case3 _ _ _ ih | case5 _ _ _ _ _ ih => exact ih.map _

/-- A token without a backslash is written as it is spelled. -/
theorem readToken_begins_with_name {pos : Nat} {t : Text} {token : Token} {next : Cursor}
    (h : readToken pos t = .done token next) (he : token.escaped = false) : token.name <+: t := by
  fun_induction readToken pos t generalizing token with
  | case1 | case4 =>
    cases h
    exact List.nil_prefix
  | case2 => cases h
  | case3 =>
    obtain ⟨a, _, rfl⟩ := Outcome.map_eq_done.1 h
    cases he
  | case5 pos c rest _ _ ih =>
    obtain ⟨a, ha, rfl⟩ := Outcome.map_eq_done.1 h
    exact (List.prefix_cons_inj c).2 (ih ha he)

theorem splitSign_suffix (t : Text) : (Numeral.splitSign t).2 <:+ t := by
  unfold Numeral.splitSign
  split
  · split
    · exact List.suffix_cons _ _
    · split
      · exact List.suffix_cons _ _
      · exact List.suffix_refl _
  · exact List.suffix_refl _

/-- A token is no form only if it spells an integer with too many digits. -/
theorem Token.snag_of_form {token : Token} {e : Numeral.Error} (h : token.form = .error e) :
    token.escaped = false ∧ Snag token.name := by
  unfold form at h
  split at h
  · cases h
  · rename_i hescaped
    refine ⟨by simpa using hescaped, ?_⟩
    split at h
    · unfold integerValue at h
      dsimp only at h
      split at h
      · rename_i hlong
        have hin : leadingDigits (Numeral.splitSign token.name).2 <:+: token.name :=
          (List.takeWhile_prefix _).isInfix.trans (splitSign_suffix _).isInfix
        refine .longRun hin ?_ hlong
        intro d hd
        exact CodePoint.isDigit_of_isDecimalDigit (List.all_eq_true.1 List.all_takeWhile d hd)
      · cases h
    · split at h
      · cases h
      · cases h

theorem readAtom_accounted (pos : Nat) (t : Text) : (readAtom pos t).Accounted t := by
  refine (readToken_accounted pos t t).bind fun token next h => ?_
  split
  · exact .done _ _
  · rename_i e he
    obtain ⟨hescaped, hsnag⟩ := Token.snag_of_form he
    exact .failed (hsnag.mono (readToken_begins_with_name h hescaped).isInfix)

theorem readInteger_accounted (start radix pos : Nat) (t u : Text) :
    (readInteger start radix pos t).Accounted u := by
  refine (readToken_accounted pos t u).bind fun token next _ => ?_
  split
  · exact .done _ _
  · exact .malformed _ _ _

/-! ## Characters and strings -/

theorem readHex_accounted (start pos : Nat) (t u : Text) : (readHex start pos t).Accounted u := by
  unfold readHex
  exact .ite (fun _ => .ite (fun _ => .truncated _) fun _ => .malformed _ _ _) fun _ => .done _ _

theorem readExactHex_accounted (start pos count : Nat) (t u : Text) :
    (readExactHex start pos count t).Accounted u := by
  unfold readExactHex
  exact .ite (fun _ => .done _ _) fun _ => .ite (fun _ => .truncated _) fun _ => .malformed _ _ _

/-- The run of surrogates in a name is there without its spaces too. -/
theorem exists_mem_of_surrogateRun? {name : Text} {run : Nat × Text}
    (h : surrogateRun? (spacedName name) = some run) : ∃ c ∈ name, c.isSurrogate = true := by
  unfold surrogateRun? at h
  dsimp only at h
  split at h
  · cases h
  · rename_i hne
    obtain ⟨c, rest, hdrop⟩ := List.exists_cons_of_ne_nil hne
    have hc := head?_drop_takeWhile (by rw [hdrop]; rfl : _ = some c)
    have hsurrogate : c.isSurrogate = true := by simpa using hc
    have hmem : c ∈ spacedName name := List.mem_of_mem_drop (hdrop ▸ List.mem_cons_self)
    rcases Text.mem_join hmem with hspace | ⟨word, hword, hmem⟩
    · rw [List.mem_singleton.1 hspace] at hsurrogate
      cases hsurrogate
    · exact ⟨c, Text.subset_of_mem_words hword hmem, hsurrogate⟩

/-- Only a name of several characters and one with a surrogate are not refused. -/
theorem namedCode_error {start : Nat} {name : Text} {fault : Fault}
    (h : namedCode start name = .error fault) :
    fault.Refuses ∨
    (∃ characters, CharacterNames.lookup? (spacedName name) = some characters ∧
      characters.length ≠ 1) ∨
    ∃ c ∈ name, c.isSurrogate = true := by
  unfold namedCode at h
  split at h
  · split at h
    · cases h
    · cases h
      exact .inl ⟨_, _, rfl⟩
  · split at h
    · rename_i hrun
      exact .inr (.inr (exists_mem_of_surrogateRun? hrun))
    · split at h
      · cases h
      · rename_i characters hne hlookup
        refine .inr (.inl ⟨characters, hlookup, fun hone => ?_⟩)
        obtain ⟨c, rfl⟩ := List.length_eq_one_iff.1 hone
        exact hne c rfl
      · cases h
        exact .inl ⟨_, _, rfl⟩

theorem readNamed_accounted (start : Nat) (t : Text) :
    (readNamed start t).Accounted (Text.of "\\N\x7b" ++ t) := by
  have ht := append_drop_takeWhile (· ≠ CodePoint.ofChar '\x7d') t
  unfold readNamed
  dsimp only
  split
  · exact .truncated _
  · rename_i c rest hd
    split
    · exact .done _ _
    · rename_i fault hf
      rintro _ _ ⟨⟩
      -- The name ends where a closing brace stands.
      have hc := head?_drop_takeWhile (by rw [hd]; rfl : _ = some c)
      have hbrace : c = '\x7d' := by simpa using hc
      rw [hd, hbrace] at ht
      have hnamed : NamedIn (Text.of "\\N\x7b" ++ t) (t.takeWhile (· ≠ CodePoint.ofChar '\x7d')) := by
        refine ⟨fun hin => by simpa using List.mem_takeWhile_imp hin, [], rest, ?_⟩
        rw [List.nil_append, List.append_assoc, List.append_assoc]
        exact congrArg (Text.of "\\N\x7b" ++ ·) ht.symm
      rcases namedCode_error hf with hm | ⟨_, hlookup, hlength⟩ | ⟨_, hmem, hsurrogate⟩
      · exact .inl hm
      · exact .inr (.sequenceName hnamed hlookup hlength)
      · exact .inr (.surrogateName hnamed hmem hsurrogate)

theorem readPlainEscape_accounted (start : Nat) (c : CodePoint) (t : Text) :
    (readPlainEscape start c t).Accounted ('\\' :: c :: t) := by
  unfold readPlainEscape
  refine .ite (fun _ => readHex_accounted _ _ _ _) fun _ => .ite (fun _ => .done _ _) fun _ =>
    .ite (fun _ => readExactHex_accounted _ _ _ _ _) fun _ =>
    .ite (fun _ => readExactHex_accounted _ _ _ _ _) fun _ => .ite (fun h => ?_) fun _ => .done _ _
  obtain ⟨rfl, hb⟩ := h
  cases t with
  | nil => cases hb
  | cons b t =>
    cases hb
    exact readNamed_accounted start t

mutual

theorem readEscape_accounted (start : Nat) (t : Text) :
    (readEscape start t).Accounted ('\\' :: t) := by
  match t with
  | [] => exact .truncated _
  | c :: rest =>
    rw [readEscape.eq_def]
    dsimp only
    split
    · exact ((readModified_accounted _ rest).map _).of_suffix ⟨[_, c], rfl⟩
    · split
      · rename_i m d body _
        split
        · exact ((readModified_accounted _ body).map _).of_suffix ⟨[_, c, d], rfl⟩
        · exact readPlainEscape_accounted _ _ _
      · exact readPlainEscape_accounted _ _ _

theorem readModified_accounted (pos : Nat) (t : Text) : (readModified pos t).Accounted t := by
  match t with
  | [] => exact .truncated _
  | c :: rest =>
    rw [readModified]
    refine .ite (fun hc => ?_) fun _ => .done _ _
    rw [hc]
    exact readEscape_accounted pos rest

end

theorem readString_accounted [CharacterNames] (cur : Cursor) :
    (readString cur).Accounted cur.rest := by
  fun_induction readString cur with
  | case1 | case4 | case7 => exact .truncated _
  | case2 => exact .done _ _
  | case3 cur c rest h _ _ ih => exact (ih.map _).of_reaches (Cursor.reaches_of_rest [c] h)
  | case5 cur c _ _ d rest h _ _ ih => exact ih.of_reaches (Cursor.reaches_of_rest [c, d] h)
  | case6 cur c _ _ d rest h _ code next he _ ih =>
    exact ((ih.map _).of_reaches (readEscape_from _ _ code next he)).of_reaches
      (Cursor.reaches_of_rest [c] h)
  | case8 cur c _ hc d rest h _ fault stop he _ =>
    have hslash : c = '\\' := by simpa using hc
    rw [h, hslash]
    rintro _ _ ⟨⟩
    exact readEscape_accounted _ _ fault stop he

theorem readCharacter_accounted (start : Nat) (t : Text) : (readCharacter start t).Accounted t := by
  refine (readModified_accounted _ t).bind fun code next _ => ?_
  split
  · exact .done _ _
  · exact .ite (fun _ => .done _ _) fun _ => .malformed _ _ _

/-! ## Lexemes -/

theorem readRadix_accounted (start : Nat) {c : CodePoint} (rest : Text) (hc : c.isDigit = true) :
    (readRadix start (c :: rest)).Accounted ('#' :: c :: rest) := by
  unfold readRadix
  dsimp only
  split
  · exact .truncated _
  · refine .ite (fun _ => .malformed _ _ _) fun _ => ?_
    split
    · rename_i e he
      have hne : (c :: rest).takeWhile CodePoint.isDigit ≠ [] := by simp [hc]
      have hsnag : Snag (Text.of "#" ++ c :: rest) := snag_of_count (by decide) hne he
      exact .failed hsnag
    · exact .ite (fun _ => .malformed _ _ _) fun _ => readInteger_accounted _ _ _ _ _

theorem readBoolVector_accounted (start : Nat) (t : Text) :
    (readBoolVector start t).Accounted (Text.of "#&" ++ t) := by
  unfold readBoolVector
  dsimp only
  split
  · exact .truncated _
  · rename_i c rest hd
    refine .ite (fun _ => .malformed _ _ _) fun h => ?_
    have hstring := ((readString_accounted _).of_reaches (reaches_afterDigits (start + 2) hd)).of_suffix
      (List.suffix_append (Text.of "#&") t)
    refine hstring.bind fun data next _ => ?_
    split
    · exact .done _ _
    · rename_i e he
      have hne : t.takeWhile CodePoint.isDigit ≠ [] := fun hnil => h (.inl (by rw [hnil]; rfl))
      exact .failed (snag_of_count (by decide) hne he)

theorem readDispatch_accounted (start : Nat) (t : Text) :
    (readDispatch start t).Accounted ('#' :: t) := by
  cases t with
  | nil => exact .truncated _
  | cons c rest =>
    have symbol : ∀ interned, (readSymbol (start + 2) interned rest).Accounted ('#' :: c :: rest) :=
      fun _ => (readToken_accounted _ _ _).map _
    unfold readDispatch
    refine .ite (fun _ => .done _ _) fun _ => .ite (fun _ => .done _ _) fun _ =>
      .ite (fun _ => .done _ _) fun _ => .ite (fun _ => .done _ _) fun _ => .ite (fun hc => ?_) fun _ =>
      .ite (fun _ => symbol _) fun _ => .ite (fun _ => .done _ _) fun _ => .ite (fun _ => symbol _)
      fun _ => ?_
    · rw [hc]
      exact readBoolVector_accounted start rest
    · cases radixOf? c with
      | some radix => exact readInteger_accounted _ _ _ _ _
      | none => exact .ite (fun hc => readRadix_accounted start rest hc) fun _ => .malformed _ _ _

theorem lexemeAt_accounted [CharacterNames] (pos : Nat) (c : CodePoint) (rest : Text) :
    (lexemeAt pos c rest).Accounted (c :: rest) := by
  have hrest : rest <:+ c :: rest := List.suffix_cons c rest
  unfold lexemeAt
  refine .ite (fun _ => .done _ _) fun _ => .ite (fun _ => .done _ _) fun _ =>
    .ite (fun _ => .done _ _) fun _ => .ite (fun _ => ((readString_accounted _).map _).of_suffix hrest)
    fun _ => .ite (fun _ => ((readCharacter_accounted _ _).map _).of_suffix hrest) fun _ =>
    .ite (fun _ => .done _ _) fun _ => .ite (fun _ => .done _ _) fun _ =>
    .ite (fun _ => .ite (fun _ => .done _ _) fun _ => .done _ _) fun _ => .ite (fun hc => ?_) fun _ =>
    .ite (fun _ => .done _ _) fun _ => readAtom_accounted _ _
  rw [hc]
  exact readDispatch_accounted pos rest

theorem lex_accounted (cur : Cursor) : (lex cur).Accounted cur.rest := by
  refine (skipBlanks_accounted cur).bind fun _ mid h => ?_
  split
  · exact .done _ _
  · rename_i c rest hrest
    have hat := (lexemeAt_accounted mid.pos c rest).map fun x => some (Lexed.mk mid.pos x)
    rw [← hrest] at hat
    exact hat.of_reaches (skipBlanks_from cur () mid h)

/-! ## Forms -/

theorem Bracket.build_accounted (b : Bracket) (start : Nat) (c : Contents) (next : Cursor) (t : Text) :
    (b.build start c next).Accounted t := by
  unfold build
  split
  · split
    · exact .done _ _
    · exact .done _ _
  · exact .done _ _
  · split
    · exact .done _ _
    · exact .malformed _ _ _

theorem closeTail_accounted (cur : Cursor) : (closeTail cur).Accounted cur.rest := by
  refine (skipBlanks_accounted cur).bind fun _ mid _ => ?_
  split
  · exact .truncated _
  · exact .ite (fun _ => .done _ _) fun _ => .malformed _ _ _

mutual

theorem readForm_accounted (x : Lexed) (next : Cursor) : (readForm x next).Accounted next.rest := by
  rw [readForm_eq]
  split
  · exact .malformed _ _ _
  · exact .malformed _ _ _
  · exact .done _ _
  · refine (lex_accounted next).bind fun y mid h => ?_
    cases y with
    | none => exact .truncated _
    | some y =>
      have hlt := (lex_advances h).length_lt
      exact ((readForm_accounted y mid).map _).of_reaches (lex_advances h).reaches
  · exact (readItems_accounted _ false next).bind fun c mid _ => Bracket.build_accounted _ _ _ _ _
termination_by 2 * next.rest.length + 1

theorem readItems_accounted (b : Bracket) (begun : Bool) (cur : Cursor) :
    (readItems b begun cur).Accounted cur.rest := by
  rw [readItems_eq]
  refine (lex_accounted cur).bind fun x mid h => ?_
  cases x with
  | none => exact .truncated _
  | some x =>
    have hlt := (lex_advances h).length_lt
    refine Outcome.Accounted.of_reaches ?_ (lex_advances h).reaches
    dsimp only
    split
    · exact .ite (fun _ => .done _ _) fun _ => .malformed _ _ _
    · exact .ite (fun _ => readAfterDot_accounted _ mid) fun _ => .malformed _ _ _
    · refine (readForm_accounted x mid).bind fun p after hp => ?_
      have hreaches := readForm_from x mid p after hp
      have hle := hreaches.length_le
      exact ((readItems_accounted b true after).map _).of_reaches hreaches
termination_by 2 * cur.rest.length

theorem readAfterDot_accounted (dot : Nat) (cur : Cursor) :
    (readAfterDot dot cur).Accounted cur.rest := by
  rw [readAfterDot_eq]
  refine (lex_accounted cur).bind fun x mid h => ?_
  cases x with
  | none => exact .truncated _
  | some x =>
    have hlt := (lex_advances h).length_lt
    refine Outcome.Accounted.of_reaches ?_ (lex_advances h).reaches
    refine .ite (fun _ => .malformed _ _ _) fun _ => ?_
    refine (readForm_accounted x mid).bind fun p after hp => ?_
    exact ((closeTail_accounted after).map _).of_reaches (readForm_from x mid p after hp)
termination_by 2 * cur.rest.length

end

/-! ## Texts -/

theorem nextForm_accounted (cur : Cursor) : (nextForm cur).Accounted cur.rest := by
  refine (lex_accounted cur).bind fun x next h => ?_
  cases x with
  | none => exact .done _ _
  | some x =>
    refine Outcome.Accounted.of_reaches ?_ (lex_advances h).reaches
    exact (readForm_accounted x next).bind fun p after _ => .done _ _

theorem readForms_refuses_or_snag {cur : Cursor} {halt : Halt} (h : readForms cur = .error halt) :
    halt.fault.Refuses ∨ Snag cur.rest := by
  fun_induction readForms cur with
  | case1 => cases h
  | case2 cur p next hp halt' hnext ih =>
    cases h
    rcases ih hnext with hm | hs
    · exact .inl hm
    · exact .inr (hs.mono (nextForm_advances hp).reaches.rest_within)
  | case3 => cases h
  | case4 => cases h
  | case5 cur fault stop hf =>
    cases h
    exact nextForm_accounted cur _ _ hf

theorem readAll_refuses_or_snag {text : Text} {fault : Fault} (h : readAll text = .error fault) :
    fault.Refuses ∨ Snag text := by
  unfold readAll at h
  split at h
  · cases h
  · rename_i halt hr
    cases h
    exact readForms_refuses_or_snag hr

end Reading

open Reading

/-! ## Searching -/

section

variable {known : CharacterNames}

/-- A file stops a search that passes over malformed files only if it is not refused. -/
theorem searchFile_skip_ne_aborted_iff (target : Symbol) (kind : Kind) (source : SourceFile) :
    (∀ f, searchFile .skip target kind source ≠ .aborted f) ↔
      ∀ fault, readAll source.text = .error fault → fault.Refuses := by
  have hsame : ∀ fault, readAll source.text = .error fault ↔
      searchText target kind source.text = .error fault := fun _ => searchText_eq_error_iff.symm
  simp only [hsame]
  unfold searchFile Fault.Refuses
  cases searchText target kind source.text with
  | ok ms => simp
  | error fault => cases fault <;> simp

/-- A search that passes over malformed files comes to its end exactly if every file
that cannot be read is refused. -/
theorem searchFrom_fault_eq_none_iff {settings : Settings} (hskip : settings.policy = .skip)
    (target : Symbol) (kind : Kind) (total done : Nat) (files : List SourceFile) (tally : Tally) :
    (searchFrom settings target kind total done files tally).fault = none ↔
      ∀ source ∈ files, ∀ fault, readAll source.text = .error fault → fault.Refuses := by
  induction files generalizing done tally with
  | nil => simp [searchFrom]
  | cons source rest ih =>
    rw [List.forall_mem_cons, ← searchFile_skip_ne_aborted_iff target kind source]
    unfold searchFrom
    rw [hskip]
    cases searchFile .skip target kind source with
    | matched ms => simp [ih]
    | skipped s => simp [ih]
    | aborted f => simp

/-- A text without snags is read, or it is refused at an offset. So where no file has a
snag, a search that passes over malformed files comes to its end. -/
theorem search_completes_without_snags (text : Text) (settings : Settings) (target : Symbol)
    (kind : Kind) (pathStart : Option Text) (files : List SourceFile) :
    (¬Snag text → (∃ forms, readAll text = .ok forms) ∨
      ∃ offset reason, readAll text = .error (.malformed offset reason)) ∧
    (settings.policy = .skip → (∀ source ∈ selectFiles pathStart files, ¬Snag source.text) →
      (search settings target kind pathStart files).fault = none) := by
  constructor
  · intro hsnag
    cases hr : readAll text with
    | ok forms => exact .inl ⟨forms, rfl⟩
    | error fault =>
      obtain ⟨offset, reason, rfl⟩ := (readAll_refuses_or_snag hr).resolve_right hsnag
      exact .inr ⟨offset, reason, rfl⟩
  · intro hskip hsnags
    unfold search
    rw [searchFrom_fault_eq_none_iff hskip]
    intro source hsource fault hfault
    exact (readAll_refuses_or_snag hfault).resolve_right (hsnags source hsource)

/-- A short text has no snag if its digits are decimal and no backslash stands in it. -/
theorem Reading.not_snag {t : Text} (hd : ∀ c ∈ t, c.isDigit = true → c.decimalValue? ≠ none)
    (hl : t.length ≤ Numeral.digitLimit) (hb : CodePoint.ofChar '\\' ∉ t) : ¬Snag t := by
  intro h
  cases h with
  | strayDigit _ hi hdigits hc hv =>
    exact hd _ (hi.subset (List.mem_append_right _ hc)) (hdigits _ hc) hv
  | longRun hi _ hlong =>
    have := hi.length_le
    omega
  | sequenceName hi | surrogateName hi =>
    exact hb (hi.2.subset (by simp [Text.of]))

end

open SomeNames

theorem search_completes_without_snags_refused :
    ¬Snag (Text.of "#1r0") ∧ ¬Snag (Text.of "(f #@4 )) 7)") ∧
    ((∃ forms, readAll (Text.of "#1r0") = .ok forms) ∨
      ∃ offset reason, readAll (Text.of "#1r0") = .error (.malformed offset reason)) ∧
    (search ⟨10, .skip, by decide⟩ (.named "f") .function none
      [⟨Text.of "a.el", Text.of "#1r0"⟩, ⟨Text.of "b.el", Text.of "(f #@4 )) 7)"⟩]).fault = none := by
  have hradix : ¬Snag (Text.of "#1r0") := not_snag (by decide) (by decide) (by decide)
  have hblock : ¬Snag (Text.of "(f #@4 )) 7)") := not_snag (by decide) (by decide) (by decide)
  obtain ⟨hreads, hcompletes⟩ := search_completes_without_snags (Text.of "#1r0")
    ⟨10, .skip, by decide⟩ (.named "f") .function none
    [⟨Text.of "a.el", Text.of "#1r0"⟩, ⟨Text.of "b.el", Text.of "(f #@4 )) 7)"⟩]
  refine ⟨hradix, hblock, hreads hradix, hcompletes rfl ?_⟩
  intro source hsource
  rcases List.mem_pair.1 hsource with rfl | rfl
  · exact hradix
  · exact hblock

/-- A superscript as a count, a name of several characters and a name with a surrogate are
not refused, and the search that meets one stops. -/
theorem search_stops_at_snag :
    readAll (Text.of "#@²") = .error (.numeral (Text.of "²") .malformed) ∧
    readAll (Text.of "?\\N\x7bKEYCAP DIGIT ONE\x7d") = .error (.namedSequence 3) ∧
    readAll (Text.of "?\\N\x7b" ++ [⟨0xD800, by decide⟩] ++ Text.of "\x7d") =
      .error (.unencodableName 0 [⟨0xD800, by decide⟩]) ∧
    (search ⟨10, .skip, by decide⟩ (.named "f") .function none
      [⟨Text.of "a.el", Text.of "#@²"⟩]).fault.map FileFault.fault =
      some (.numeral (Text.of "²") .malformed) := by
  decide +kernel

end LispXref
