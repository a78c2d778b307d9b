-- The codes of characters. Main statement: a character in the forms of a text has a negative
-- code exactly if its literal ends in an escape that names the character by a number with a
-- minus sign. Digits spell no negative code, and modifiers make none.
import LispXref.Proofs.Modifiers
import LispXref.Proofs.ReadBack
import LispXref.Reading.SomeNames

namespace LispXref

namespace Reading

/-! ## Names -/

/-- A number as the name of a character, between the braces. -/
def numberName (u : CodePoint) (numeral : Text) : Text := u :: CodePoint.ofChar '+' :: numeral

/-- An escape that names a character by a hexadecimal number below zero. -/
inductive NamedNegative : Text → Prop
  | intro {u : CodePoint} {numeral : Text} {code : Int} (hu : u = 'u' ∨ u = 'U')
      (h : Numeral.parse 16 numeral = .ok code) (hneg : code < 0) :
      NamedNegative (Text.of "\\N\x7b" ++ numberName u numeral ++ Text.of "\x7d")

/-- In front of a number stand a letter of either case and a plus sign. -/
theorem exists_numberName {name : Text}
    (h : (name.take 2).map CodePoint.lowerAscii = Text.of "u+") :
    ∃ u : CodePoint, (u = 'u' ∨ u = 'U') ∧ name = numberName u (name.drop 2) := by
  have hlen := congrArg List.length h
  rw [List.length_map, List.length_take] at hlen
  match name, hlen with
  | u :: p :: numeral, _ =>
    have hu : u.lowerAscii = 'u' := (List.cons.inj h).1
    have hp : p.lowerAscii.val = 43 :=
      congrArg CodePoint.val (List.cons.inj (List.cons.inj h).2).1
    have hplus : p = '+' := by
      rw [CodePoint.val_lowerAscii] at hp
      rw [CodePoint.eq_ofChar_iff]
      show p.val = 43
      split at hp <;> omega
    refine ⟨u, ?_, by rw [hplus]; rfl⟩
    rw [CodePoint.lowerAscii_eq_iff (by decide)] at hu
    rw [CodePoint.eq_ofChar_iff, CodePoint.eq_ofChar_iff]
    exact hu.imp_right fun hupper => Nat.add_right_cancel hupper

variable {known : CharacterNames}

theorem namedCode_cases {start : Nat} {name : Text} {code : Int}
    (h : namedCode start name = .ok code) :
    0 ≤ code ∨ ∃ (u : CodePoint) (numeral : Text), (u = 'u' ∨ u = 'U') ∧
      name = numberName u numeral ∧ Numeral.parse 16 numeral = .ok code := by
  unfold namedCode at h
  split at h
  · rename_i hmark
    obtain ⟨u, hu, hname⟩ := exists_numberName hmark
    refine .inr ⟨u, name.drop 2, hu, hname, ?_⟩
    split at h
    · rename_i hparse
      rw [hparse, Except.ok.inj h]
    · cases h
  · split at h
    · cases h
    · split at h
      · cases h
        exact .inl (Int.natCast_nonneg _)
      · cases h
      · cases h

theorem namedCode_numberName {start : Nat} {u : CodePoint} {numeral : Text} {code : Int}
    (hu : u = 'u' ∨ u = 'U') (h : namedCode start (numberName u numeral) = .ok code) :
    Numeral.parse 16 numeral = .ok code := by
  have hmark : ((numberName u numeral).take 2).map CodePoint.lowerAscii = Text.of "u+" := by
    rcases hu with rfl | rfl <;> rfl
  unfold namedCode at h
  rw [if_pos hmark] at h
  split at h
  · rename_i hparse
    exact hparse.trans (congrArg _ (Except.ok.inj h))
  · cases h

/-- A name ends at the first closing brace. -/
theorem readNamed_eq_done {start : Nat} {t : Text} {code : Int} {next : Cursor}
    (h : readNamed start t = .done code next) :
    ∃ name, t = name ++ CodePoint.ofChar '\x7d' :: next.rest ∧ namedCode start name = .ok code := by
  have hsplit := append_drop_takeWhile (· ≠ CodePoint.ofChar '\x7d') t
  unfold readNamed at h
  dsimp only at h
  split at h
  · cases h
  · rename_i c rest hdrop
    have hclose := head?_drop_takeWhile (p := (· ≠ CodePoint.ofChar '\x7d')) (t := t) (c := c)
      (by rw [hdrop]; rfl)
    split at h
    · rename_i hcode
      cases h
      rw [hdrop] at hsplit
      refine ⟨_, ?_, hcode⟩
      rw [show c = CodePoint.ofChar '\x7d' by simpa using hclose] at hsplit
      exact hsplit
    · cases h

/-! ## Escapes -/

/-- An escape gives the code of a name between braces. -/
def GivenByName [CharacterNames] (start : Nat) (c : CodePoint) (t : Text) (code : Int)
    (next : Cursor) : Prop :=
  c = 'N' ∧ ∃ inside, t = CodePoint.ofChar '\x7b' :: inside ∧ readNamed start inside = .done code next

/-- Only a name can spell a code below zero. -/
theorem readPlainEscape_nonneg_or_named (start : Nat) (c : CodePoint) (t : Text) :
    (readPlainEscape start c t).Gives fun code next => 0 ≤ code ∨ GivenByName start c t code next := by
  have digits : ∀ pos base ds u, (readDigits pos base ds u).Gives fun code next =>
      0 ≤ code ∨ GivenByName start c t code next :=
    fun _ _ _ _ => .done (.inl (Int.natCast_nonneg _))
  unfold readPlainEscape
  refine .ite (fun _ => ?_) fun _ => .ite (fun _ => digits _ _ _ _) fun _ => .ite (fun _ => ?_) fun _ =>
    .ite (fun _ => ?_) fun _ => .ite (fun h => ?_) fun _ => .done (.inl (Int.natCast_nonneg _))
  · exact .ite (fun _ => .ite (fun _ => .truncated _) fun _ => .failed _ _) fun _ => digits _ _ _ _
  · exact .ite (fun _ => digits _ _ _ _) fun _ => .ite (fun _ => .truncated _) fun _ => .failed _ _
  · exact .ite (fun _ => digits _ _ _ _) fun _ => .ite (fun _ => .truncated _) fun _ => .failed _ _
  · obtain ⟨inside, rfl⟩ := List.head?_eq_some_iff.1 h.2
    exact fun code next hread => .inr ⟨h.1, inside, rfl, hread⟩

/-- A body has a negative code exactly if it is named by a number below zero. -/
theorem Unmodified.neg_iff {body : Text} {code : Int} (h : Unmodified body code) :
    code < 0 ↔ NamedNegative body := by
  constructor
  · intro hneg
    cases h with
    | plain => omega
    | @escape start c t code stop hc hm h =>
      rcases readPlainEscape_nonneg_or_named start c t code _ h with h0 | ⟨rfl, inside, rfl, hread⟩
      · omega
      · obtain ⟨name, rfl, hcode⟩ := readNamed_eq_done hread
        rcases namedCode_cases hcode with h0 | ⟨u, numeral, hu, rfl, hparse⟩
        · omega
        · exact .intro hu hparse hneg
  · rintro ⟨hu, hparse, hneg⟩
    rename_i u numeral named
    generalize hbody : Text.of "\\N\x7b" ++ numberName u numeral ++ Text.of "\x7d" = body at h
    cases h with
    | plain => cases hbody
    | @escape start c t code stop hc hm h =>
      cases hbody
      have hread : readNamed start (numberName u numeral ++ Text.of "\x7d") =
          .done code ⟨stop, []⟩ := h
      obtain ⟨name, hname, hcode⟩ := readNamed_eq_done hread
      rw [← List.append_cancel_right hname] at hcode
      have hsame := hparse.symm.trans (namedCode_numberName hu hcode)
      rwa [← Except.ok.inj hsame]

theorem applyAll_neg_iff (ms : List Modifier) (code : Int) : applyAll ms code < 0 ↔ code < 0 := by
  induction ms with
  | nil => rfl
  | cons m ms ih => exact (m.apply_neg_iff _).trans ih

/-! ## Characters of a text -/

/-- A character stands in its text as a literal. -/
theorem LexemeAt.exists_characterLiteral {text : Text} {s e : Nat} {code : Int}
    (h : LexemeAt text s (.atom (.char code)) e) :
    ∃ ps body base, characterLiteral ps body <:+: text ∧ Unmodified body base ∧
      code = applyAll (ps.map Prefix.modifier) base := by
  obtain ⟨t, ht, hread⟩ := h.readable
  obtain ⟨ps, body, base, rfl, hbody, hcode⟩ := spells_of_readModified hread
  refine ⟨ps, body, base, ?_, hbody, hcode⟩
  have hliteral : characterLiteral ps body <+: text.drop s := ⟨_, ht.symm⟩
  exact hliteral.isInfix.trans (List.drop_suffix s text).isInfix

end Reading

open Reading

section

variable {known : CharacterNames}

/-- Every character in the forms of a text stands in the text as modifiers and a body, and its
code is negative exactly if the body is an escape that names it by a number below zero. -/
theorem character_code_neg_iff {text : Text} {forms : List Positioned} {top : Positioned}
    {code : Int} (h : readAll text = .ok forms) (htop : top ∈ forms)
    (hc : (Form.char code).Occurs top.form) :
    ∃ ps body base, characterLiteral ps body <:+: text ∧ Unmodified body base ∧
      code = applyAll (ps.map Prefix.modifier) base ∧ (code < 0 ↔ NamedNegative body) := by
  obtain ⟨ls, hall, _, rfl⟩ := exists_row_of_readAll h
  obtain ⟨l, hmem, rfl⟩ := List.mem_map.1 htop
  rcases (hall l hmem).exists_lexemeAt_of_occurs hc rfl with ⟨_, hs⟩ | ⟨_, hs⟩ | ⟨s, e, hx⟩
  · cases hs
  · cases hs
  · obtain ⟨ps, body, base, hinfix, hbody, rfl⟩ := hx.exists_characterLiteral
    exact ⟨ps, body, base, hinfix, hbody, rfl, (applyAll_neg_iff _ base).trans hbody.neg_iff⟩

end

open SomeNames

/-- Of the two characters in `(?\\M-\\N{U+-41} ?a)` the first is named by a number below zero. -/
theorem character_code_neg_iff_meta :
    (∃ ps body base, characterLiteral ps body <:+: Text.of "(?\\M-\\N\x7bU+-41\x7d ?a)" ∧
      Unmodified body base ∧ -65 = applyAll (ps.map Prefix.modifier) base ∧ NamedNegative body) ∧
    ∃ ps body base, characterLiteral ps body <:+: Text.of "(?\\M-\\N\x7bU+-41\x7d ?a)" ∧
      Unmodified body base ∧ 97 = applyAll (ps.map Prefix.modifier) base ∧ ¬NamedNegative body := by
  have hread : readAll (Text.of "(?\\M-\\N\x7bU+-41\x7d ?a)") =
      .ok [⟨.list [.char (-65), .char 97], .ofNat 0 18, []⟩] := by decide +kernel
  have hmeta : (Form.char (-65)).Occurs (.list [.char (-65), .char 97]) :=
    .inside List.mem_cons_self .here
  have hplain : (Form.char 97).Occurs (.list [.char (-65), .char 97]) :=
    .inside (List.mem_cons_of_mem _ List.mem_cons_self) .here
  constructor
  · obtain ⟨ps, body, base, hinfix, hbody, hcode, hneg⟩ :=
      character_code_neg_iff hread List.mem_cons_self hmeta
    exact ⟨ps, body, base, hinfix, hbody, hcode, hneg.1 (by decide)⟩
  · obtain ⟨ps, body, base, hinfix, hbody, hcode, hneg⟩ :=
      character_code_neg_iff hread List.mem_cons_self hplain
    exact ⟨ps, body, base, hinfix, hbody, hcode, fun h => absurd (hneg.2 h) (by decide)⟩

/-- A number with a minus sign is taken for a name, and the character has a code below zero. -/
theorem code_below_zero_read :
    ∃ code < 0, readAll (Text.of "?\\N\x7bU+-1\x7d") = .ok [⟨.char code, .ofNat 0 9, []⟩] :=
  ⟨-1, by decide, by decide +kernel⟩

end LispXref
