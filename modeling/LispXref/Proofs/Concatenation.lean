-- Two texts with a newline between them. Main statement: the concatenation has the forms
-- of both texts and, for every target and kind, the matches of both; what comes from the
-- second text stands further on.
import LispXref.Proofs.Mentions
import LispXref.Proofs.Offset
import LispXref.Proofs.Sequence
import LispXref.Reading.SomeNames

namespace LispXref

open Reading

/-- Two texts with a newline between them. -/
def Text.joinLines (t u : Text) : Text := t ++ CodePoint.ofChar '\n' :: u

/-- A match further on in the text. -/
def Match.shift (d : Nat) (m : Match) : Match := { m with span := m.span.shift d }

namespace Reading

/-! ## Matches further on -/

variable {known : CharacterNames}
variable (d : Nat)

theorem Layout.positioned_forward (l : Layout) :
    (l.move (.forward d)).positioned = l.positioned.shift d := by
  rw [positioned, start_move, stop_move, piece_move]
  exact Positioned.ofPiece_forward d _ _ _

mutual

theorem Layout.found_forward (accepts : Form → Path → Bool) (path : Path) (l : Layout) :
    (l.move (.forward d)).found accepts path = (l.found accepts path).map (.shift d) := by
  cases l with
  | node p s e parts =>
    rw [move_node, found, found]
    show (if accepts p.form path then _ else if p.form.descends then _ else _) = _
    split
    · rfl
    · split
      · exact foundAmong_forward accepts path p.form.operator? 0 parts
      · rfl

theorem Layout.foundAmong_forward (accepts : Form → Path → Bool) (path : Path)
    (operator : Option Symbol) (index : Nat) (ls : List Layout) :
    foundAmong accepts path operator index (ls.map (.move (.forward d))) =
      (foundAmong accepts path operator index ls).map (.shift d) := by
  cases ls with
  | nil => rfl
  | cons l ls =>
    rw [List.map_cons, foundAmong, foundAmong, List.map_append, found_forward accepts _ l,
      foundAmong_forward accepts path operator (index + 1) ls]

end

theorem Occurrence.toMatch_forward (o : Occurrence) :
    (o.move (.forward d)).toMatch = o.toMatch.shift d := by
  simp only [toMatch, move, Moves.forward, Match.shift, Span.shift_ofNat, Nat.add_right_comm]

theorem Layout.tokens_forward (target : Symbol) (l : Layout) :
    (l.move (.forward d)).tokens target = (l.tokens target).map (.shift d) := by
  rw [tokens, tokens, occurrences_move, List.filter_map, List.map_map, List.map_map]
  exact List.map_congr_left fun o _ => o.toMatch_forward d

theorem Layout.matchesOf_forward (target : Symbol) (kind : Kind) (l : Layout) :
    (l.move (.forward d)).matchesOf target kind = (l.matchesOf target kind).map (.shift d) := by
  unfold matchesOf
  split
  · exact found_forward d _ _ l
  · exact tokens_forward d target l

/-! ## Both texts in their concatenation -/

/-- A text that stands further on is carried over as a whole. -/
theorem carry_forward {text text' : Text} {d : Nat} (h : ∀ q, text'.drop (q + d) = text.drop q) :
    Carry text text' (.forward d) fun _ _ => True where
  narrows _ _ _ := trivial
  lexeme _ hx := hx.forward (h _) (h _)
  gap _ _ hg _ := hg.forward (h _) (h _)
  width _ hlt := by
    simp only [Moves.forward]
    omega

variable (t u : Text)

theorem drop_joinLines (q : Nat) :
    (t.joinLines u).drop (q + (t.length + 1)) = u.drop q := by
  rw [Text.joinLines, show q + (t.length + 1) = t.length + (q + 1) by omega,
    List.drop_length_add_append]
  rfl

/-- The newline ends a token as the end of the text did. -/
theorem agree_joinLines : Agree t (t.joinLines u) t.length where
  take_eq := by rw [Text.joinLines, List.take_left, List.take_length]
  seam := by
    rw [Text.joinLines, List.drop_left]
    exact .inr rfl

variable {t} {ls : List Layout}

theorem Follow.joinLines (h : Follow t 0 ls t.length) :
    Follow (t.joinLines u) 0 ls t.length :=
  h.of_agree (agree_joinLines t u)

theorem Follow.readForms_joinLines (h : Follow t 0 ls t.length) :
    readForms (.ofText (t.joinLines u) 0) = ((readForms (.ofText u 0)).map fun gs =>
      ls.map Layout.positioned ++ gs.map (.shift (t.length + 1))).mapError (.shift (t.length + 1)) := by
  have hblank : readForms (.ofText (t.joinLines u) t.length) =
      readForms (.ofText (t.joinLines u) (0 + (t.length + 1))) := by
    apply readForms_of_skipBlanks_eq
    rw [Cursor.ofText, Cursor.ofText, drop_joinLines, Text.joinLines, List.drop_left,
      skipBlanks_blank _ _ (by decide), Nat.zero_add]
    rfl
  rw [(h.joinLines u).readForms_eq, hblank,
    Cursor.ofText_forward (drop_joinLines t u 0), readForms_shift]
  cases readForms (.ofText u 0) <;> rfl

theorem Follow.laid_joinLines {u : Text} (h : Follow t 0 ls t.length) {ks : List Layout}
    (hk : ∀ l ∈ ks, Laid u l) :
    ∀ l ∈ ls ++ ks.map (Layout.move (.forward (t.length + 1))), Laid (t.joinLines u) l := by
  intro l hl
  rcases List.mem_append.1 hl with hl | hl
  · exact (h.joinLines u).laid l hl
  · obtain ⟨k, hmem, rfl⟩ := List.mem_map.1 hl
    exact (hk k hmem).carry (carry_forward (drop_joinLines t u)) (.whole trivial)

/-- A text that ends with its last form is a sequence of forms up to its end. -/
theorem exists_follow_to_end {fs : List Positioned} (h : readAll t = .ok fs)
    (hend : t = [] ∨ ∃ p, fs.getLast? = some p ∧ p.span.stop = t.length) :
    ∃ ls, Follow t 0 ls t.length ∧ fs = ls.map Layout.positioned := by
  rcases hend with rfl | ⟨p, hlast, hstop⟩
  · have hnil : readAll [] = .ok [] := (readAll_eq []).trans (by rw [readForms_end rfl]; rfl)
    rw [hnil] at h
    cases h
    exact ⟨[], rfl, rfl⟩
  · obtain ⟨ls, e, hfollow, _, rfl⟩ := exists_follow_of_readAll h
    rw [List.getLast?_map, Option.map_eq_some_iff] at hlast
    obtain ⟨l, hl, rfl⟩ := hlast
    have hstop' : l.stop = t.length := Int.ofNat_inj.1 hstop
    rw [← hstop', hfollow.stop_eq hl]
    exact ⟨ls, hfollow, rfl⟩

end Reading

section

variable {known : CharacterNames}

/-- Reading and searching go through two texts with a newline between them one after the
other, if the first ends with its last form or is empty. A fault of the second text is
reported further on, too. -/
theorem readAll_joinLines {t u : Text} {fs : List Positioned} (h : readAll t = .ok fs)
    (hend : t = [] ∨ ∃ p, fs.getLast? = some p ∧ p.span.stop = t.length) :
    (∀ gs, readAll u = .ok gs →
      readAll (t.joinLines u) = .ok (fs ++ gs.map (.shift (t.length + 1))) ∧
      ∀ target kind, ∃ ms ns, searchText target kind t = .ok ms ∧ searchText target kind u = .ok ns ∧
        searchText target kind (t.joinLines u) = .ok (ms ++ ns.map (.shift (t.length + 1)))) ∧
    ∀ fault, readAll u = .error fault →
      readAll (t.joinLines u) = .error (fault.shift (t.length + 1)) := by
  obtain ⟨ls, hfollow, rfl⟩ := exists_follow_to_end h hend
  have hread := hfollow.readForms_joinLines u
  constructor
  · intro gs hu
    obtain ⟨ks, e, hks, hnone, rfl⟩ := exists_follow_of_readAll hu
    have hboth : readAll (t.joinLines u) =
        .ok (ls.map Layout.positioned ++ (ks.map Layout.positioned).map (.shift (t.length + 1))) := by
      rw [readAll_eq, hread, hks.readForms_of_end hnone]
      rfl
    refine ⟨hboth, fun target kind => ?_⟩
    refine ⟨_, _, searchText_of_row h hfollow.laid target kind,
      searchText_of_row hu hks.laid target kind, ?_⟩
    have hlaid := hfollow.laid_joinLines hks.laid
    have hrow : readAll (t.joinLines u) = .ok (List.map Layout.positioned
        (ls ++ ks.map (Layout.move (.forward (t.length + 1))))) := by
      rw [hboth, List.map_append, List.map_map, List.map_map]
      simp only [Function.comp_def, Layout.positioned_forward]
    rw [searchText_of_row hrow hlaid target kind, List.flatMap_append, List.flatMap_map,
      List.map_flatMap]
    congr 2
    apply List.flatMap_congr
    intro l _
    rw [Layout.positioned_forward, Layout.matchesOf_forward]
    show (if l.positioned.mentions target then _ else _) = _
    split <;> rfl
  · intro fault hu
    rw [readAll_eq] at hu ⊢
    rw [hread]
    cases hr : readForms (.ofText u 0) with
    | ok gs =>
      rw [hr] at hu
      cases hu
    | error halt =>
      rw [hr] at hu
      cases hu
      rfl

end

open SomeNames

theorem readAll_joinLines_call_and_comment :
    readAll ((Text.of "(f 1)").joinLines (Text.of "; f\n#'f")) =
      .ok [⟨.list [.symbol (.named "f"), .int 1], .ofNat 0 5, [⟨.named "f", 1, 1⟩]⟩,
        ⟨Shorthand.function.apply (.symbol (.named "f")), .ofNat 10 13, [⟨.named "f", 2, 1⟩]⟩] ∧
    (∃ ms ns, searchText (.named "f") .function (Text.of "(f 1)") = .ok ms ∧
      searchText (.named "f") .function (Text.of "; f\n#'f") = .ok ns ∧
      searchText (.named "f") .function ((Text.of "(f 1)").joinLines (Text.of "; f\n#'f")) =
        .ok (ms ++ ns.map (.shift 6))) ∧
    readAll ((Text.of "(f 1)").joinLines (Text.of "f )")) =
      .error (.malformed 8 (.unexpectedCloser ')')) := by
  have hcall : readAll (Text.of "(f 1)") =
      .ok [⟨.list [.symbol (.named "f"), .int 1], .ofNat 0 5, [⟨.named "f", 1, 1⟩]⟩] := by
    decide +kernel
  have hfunction : readAll (Text.of "; f\n#'f") =
      .ok [⟨Shorthand.function.apply (.symbol (.named "f")), .ofNat 4 7, [⟨.named "f", 2, 1⟩]⟩] := by
    decide +kernel
  have hcloser : readAll (Text.of "f )") = .error (.malformed 2 (.unexpectedCloser ')')) := by
    decide +kernel
  have hend : Text.of "(f 1)" = [] ∨ ∃ p : Positioned, List.getLast?
      [(⟨.list [.symbol (.named "f"), .int 1], .ofNat 0 5, [⟨.named "f", 1, 1⟩]⟩ : Positioned)] =
        some p ∧ p.span.stop = (Text.of "(f 1)").length := .inr ⟨_, rfl, rfl⟩
  obtain ⟨hread, hsearch⟩ := (readAll_joinLines hcall hend).1 _ hfunction
  exact ⟨hread, hsearch _ _, (readAll_joinLines hcall hend).2 _ hcloser⟩

end LispXref
