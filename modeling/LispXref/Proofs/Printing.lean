-- Printing and reading back. Main statement: a printable form is printed as a text that
-- reads as exactly that form, and the form takes up the whole text.
import LispXref.Proofs.Alone
import LispXref.Proofs.Literals
import LispXref.Reading.SomeNames

namespace LispXref

open Reading

/-! ## Printable forms -/

/-- The forms that are read as they are printed. The symbols of backquote, comma and comma-at
have no plain names, so a list headed by one of them needs the mark. -/
inductive Form.Printable : Form → Prop
  | symbol {name : Text} (h : PlainName name) : Printable (.symbol (.intern name))
  | uninterned {name : Text} (h : IsToken name) : Printable (.symbol ⟨name, false⟩)
  | string (value : Text) : Printable (.string value)
  | char {code : Int} (h : 0 ≤ code) (hb : code ≠ 92) : Printable (.char code)
  | int {value : Int} (h : value.natAbs < Nat.pow 10 Numeral.digitLimit) : Printable (.int value)
  | boolVector {length : Nat} {data : Text} (hl : length < Nat.pow 10 Numeral.digitLimit)
      (hd : ∀ c ∈ data, c ≠ '\x22' ∧ c ≠ '\\') : Printable (.boolVector length data)
  | vector (kind : VectorKind) {items : List Form} (h : ∀ f ∈ items, Printable f) :
      Printable (.vector kind items)
  | list {items : List Form} (h : ∀ f ∈ items, Printable f) : Printable (.list items)
  | dotted {items : List Form} {tail : Form} (hne : items ≠ []) (h : ∀ f ∈ items, Printable f)
      (ht : Printable tail) : Printable (.dotted items tail)
  /-- A comma before a symbol that begins with `@` would be another mark. -/
  | shorthand (m : Shorthand) {f : Form} (h : Printable f)
      (hat : m = .comma → ∀ name, f = .symbol (.intern name) →
        name.head? ≠ some (CodePoint.ofChar '@')) : Printable (m.apply f)

namespace Reading

/-! ## Contents of brackets -/

/-- Wherever the text stands, the items and the tail are read from it; the text ends with
the closing delimiter. -/
def Fills [CharacterNames] (b : Bracket) (begun : Bool) (t : Text) (items : List Form)
    (tail : Option Form) : Prop :=
  ∀ text q rest, text.drop q = t ++ rest →
    ∃ c, readItems b begun (.ofText text q) = .done c (.ofText text (q + t.length)) ∧
      c.items = items ∧ c.tail = tail

variable {known : CharacterNames}

/-- A blank before a lexeme is a gap. -/
theorem gap_blank {text : Text} {q e : Nat} {c : CodePoint} {rest : Text} {x : Lexeme}
    (ht : text.drop q = c :: rest) (hb : isBlank c = true) (hx : LexemeAt text (q + 1) x e) :
    Gap text q (q + 1) := by
  have hnext : Cursor.ofText text (q + 1) = ⟨q + 1, rest⟩ := Cursor.ofText_add (t := [c]) ht
  unfold Gap
  rw [Cursor.ofText, ht, skipBlanks_blank q rest hb, ← hnext]
  exact hx.gap_self

theorem lexemeAt_closer_append [CharacterNames] {text rest : Text} {s : Nat} {c : CodePoint}
    (hc : isCloser c = true) (ht : text.drop s = [c] ++ rest) :
    LexemeAt text s (.closer c) (s + 1) := by
  simp only [isCloser, Bool.or_eq_true, decide_eq_true_eq] at hc
  rcases hc with rfl | rfl
  · exact .of_append [] ht (by decide) (by decide) rfl
  · exact .of_append [] ht (by decide) (by decide) rfl

theorem Bracket.isCloser_closer (b : Bracket) : isCloser b.closer = true := by
  cases b with
  | vector kind => cases kind <;> rfl
  | _ => rfl

theorem Fills.close (b : Bracket) (begun : Bool) : Fills b begun [b.closer] [] none := by
  intro text q rest ht
  have hx := lexemeAt_closer_append b.isCloser_closer ht
  exact ⟨.empty, hx.readItems_close hx.gap_self begun, rfl, rfl⟩

/-- An item before the rest of the contents. -/
theorem Fills.cons {b : Bracket} {t u : Text} {f : Form} {fs : List Form} {tail : Option Form}
    (hu : Fills b true u fs tail) (hf : Denotes t f) (ha : ∀ rest, standsAlone (u ++ rest) = true)
    (begun : Bool) : Fills b begun (t ++ u) (f :: fs) tail := by
  intro text q rest ht
  rw [List.append_assoc] at ht
  obtain ⟨p, hp, hform⟩ := hf text q (u ++ rest) ht (ha rest)
  obtain ⟨x, n, hx, _⟩ := id hp
  have hrest : text.drop (q + t.length) = u ++ rest := by
    rw [← List.drop_drop, ht, List.drop_left]
  obtain ⟨c, hc, hitems, htail⟩ := hu text (q + t.length) rest hrest
  refine ⟨.cons p c, ?_, ?_, htail⟩
  · rw [hp.readItems hx.gap_self, hc, List.length_append, Nat.add_assoc]
    rfl
  · rw [Contents.cons, hform, hitems]

/-- A space before the next item. -/
theorem Fills.space {b : Bracket} {begun : Bool} {u : Text} {fs : List Form} {tail : Option Form}
    (hu : Fills b begun u fs tail) : Fills b begun (Text.of " " ++ u) fs tail := by
  intro text q rest ht
  have hnext : text.drop (q + 1) = u ++ rest := by
    rw [← List.drop_drop, ht]
    rfl
  obtain ⟨c, hc, hitems, htail⟩ := hu text (q + 1) rest hnext
  refine ⟨c, ?_, hitems, htail⟩
  have hskip : lex (.ofText text q) = lex (.ofText text (q + 1)) := by
    have hcur : Cursor.ofText text (q + 1) = ⟨q + 1, u ++ rest⟩ := by rw [Cursor.ofText, hnext]
    unfold lex
    rw [hcur, Cursor.ofText, ht]
    exact congrArg (Outcome.bind · _) (skipBlanks_blank q (u ++ rest) (by decide))
  rw [readItems_eq, hskip, ← readItems_eq, hc, List.length_append, ← Nat.add_assoc]
  rfl

/-- A dot, the tail and the closing parenthesis. -/
theorem Fills.tail {t : Text} {f : Form} (hf : Denotes t f) :
    Fills .list true (Text.of ". " ++ t ++ Text.of ")") [] (some f) := by
  intro text q rest ht
  rw [List.append_assoc, List.append_assoc] at ht
  have hdot : LexemeAt text q .dot (q + 1) := .of_append [] ht (by decide) (by decide) rfl
  have hblank : text.drop (q + 1) = Text.of " " ++ (t ++ (Text.of ")" ++ rest)) := by
    rw [← List.drop_drop, ht]
    rfl
  have htail : text.drop (q + 2) = t ++ (Text.of ")" ++ rest) := by
    rw [← List.drop_drop, ht]
    rfl
  obtain ⟨p, hp, hform⟩ := hf text (q + 2) _ htail rfl
  obtain ⟨x, n, hx, _⟩ := id hp
  have hend : text.drop (q + 2 + t.length) = [CodePoint.ofChar ')'] ++ rest := by
    rw [← List.drop_drop, htail, List.drop_left]
    rfl
  have hclose := lexemeAt_closer_append (by decide) hend
  refine ⟨.ofTail p, ?_, rfl, congrArg some hform⟩
  rw [hdot.readItems_dot hdot.gap_self,
    hp.readAfterDot (gap_blank hblank (by decide) hx) hclose.gap_self hclose]
  have hlen : q + 2 + t.length + 1 = q + (Text.of ". " ++ t ++ Text.of ")").length := by
    have hdots : (Text.of ". ").length = 2 := rfl
    have hparen : (Text.of ")").length = 1 := rfl
    rw [List.length_append, List.length_append, hdots, hparen]
    omega
  rw [hlen]

/-- Items with a space between neighbours, before the rest of the contents. -/
theorem Fills.items {b : Bracket} {u : Text} {items fs : List Form} {tail : Option Form}
    (hu : Fills b true u fs tail) (ha : ∀ rest, standsAlone (u ++ rest) = true)
    (h : ∀ f ∈ items, Denotes f.print f) (hne : items ≠ []) (begun : Bool) :
    Fills b begun (Form.printItems items ++ u) (items ++ fs) tail := by
  induction items generalizing begun with
  | nil => exact absurd rfl hne
  | cons f items ih =>
    have hf := h f List.mem_cons_self
    cases items with
    | nil =>
      rw [Form.printItems]
      exact hu.cons hf ha begun
    | cons g items =>
      have hrest := ih (fun g hg => h g (List.mem_cons_of_mem _ hg)) (by simp) true
      have hprint : Form.printItems (f :: g :: items) =
          f.print ++ Text.of " " ++ Form.printItems (g :: items) := Form.printItems.eq_3 f _ nofun
      rw [hprint, List.append_assoc, List.append_assoc]
      exact hrest.space.cons hf (fun _ => rfl) begun

theorem fills_printItems (b : Bracket) {items : List Form} (h : ∀ f ∈ items, Denotes f.print f) :
    Fills b false (Form.printItems items ++ [b.closer]) items none := by
  by_cases hne : items = []
  · subst hne
    rw [Form.printItems]
    exact .close b false
  · have ha : ∀ rest, standsAlone ([b.closer] ++ rest) = true := by
      intro rest
      cases b with
      | vector kind => cases kind <;> rfl
      | _ => rfl
    have hfill := (Fills.close b true).items ha h hne false
    rw [List.append_nil] at hfill
    exact hfill

/-! ## Compounds -/

/-- An opening bracket and its contents. -/
theorem Fills.denotes {b : Bracket} {u : Text} {items : List Form} {tail : Option Form} {f : Form}
    (hu : Fills b false u items tail) {c : CodePoint} (body : Text) (hb : isBlank c = false)
    (hs : c ≠ ';')
    (hx : ∀ s rest, lexemeAt s c (body ++ rest) = .done (.opener b) ⟨s + (c :: body).length, rest⟩)
    (hf : b.form? items tail = some f) : Denotes (c :: body ++ u) f := by
  intro text s rest ht _
  rw [List.append_assoc] at ht
  have hopen := LexemeAt.of_append body ht hb hs (hx s _)
  have hrest : text.drop (s + (c :: body).length) = u ++ rest := by
    rw [← List.drop_drop, ht, List.drop_left]
  obtain ⟨contents, hread, hitems, htail⟩ := hu text _ rest hrest
  refine ⟨⟨f, contents.occurrences⟩, ⟨_, _, hopen, ?_⟩, rfl⟩
  rw [readForm_eq]
  simp only
  rw [Outcome.bind_of_done hread, List.length_append, ← Nat.add_assoc]
  refine Bracket.build_eq_done.2 ⟨?_, rfl, rfl⟩
  rw [hitems, htail, hf]

theorem denotes_vector (kind : VectorKind) {items : List Form} (h : ∀ f ∈ items, Denotes f.print f) :
    Denotes (Form.vector kind items).print (.vector kind items) := by
  have hfill := fills_printItems (.vector kind) h
  rw [Form.print, List.append_assoc]
  cases kind with
  | plain => exact hfill.denotes [] (by decide) (by decide) (fun _ _ => rfl) rfl
  | record =>
    exact hfill.denotes (Text.of "s(") (by decide) (by decide) (fun _ _ => rfl) rfl
  | bytecode =>
    exact hfill.denotes (Text.of "[") (by decide) (by decide) (fun _ _ => rfl) rfl

theorem denotes_dotted {items : List Form} {tail : Form} (hne : items ≠ [])
    (h : ∀ f ∈ items, Denotes f.print f) (ht : Denotes tail.print tail) :
    Denotes (Form.dotted items tail).print (.dotted items tail) := by
  have hfill := (Fills.tail ht).space.items (fun _ => rfl) h hne false
  rw [List.append_nil] at hfill
  have hprint : (Form.dotted items tail).print = CodePoint.ofChar '(' ::
      (Form.printItems items ++ (Text.of " " ++ (Text.of ". " ++ tail.print ++ Text.of ")"))) := by
    rw [Form.print]
    simp [Text.of]
  rw [hprint]
  exact hfill.denotes [] (by decide) (by decide) (fun _ _ => rfl) rfl

/-- A mark before a text that denotes a form. -/
theorem Denotes.shorthand {t : Text} {f : Form} (h : Denotes t f) (m : Shorthand)
    (hat : m = .comma → t.head? ≠ some (CodePoint.ofChar '@')) :
    Denotes (m.mark ++ t) (m.apply f) := by
  intro text s rest ht hrest
  rw [List.append_assoc] at ht
  have hnext : text.drop (s + m.mark.length) = t ++ rest := by
    rw [← List.drop_drop, ht, List.drop_left]
  obtain ⟨p, hp, hform⟩ := h text _ rest hnext hrest
  obtain ⟨x, n, hx, _⟩ := id hp
  have hmark : LexemeAt text s (.shorthand m) (s + m.mark.length) := by
    cases m with
    | quote => exact .of_append [] ht (by decide) (by decide) rfl
    | function => exact .of_append ['\x27'] ht (by decide) (by decide) rfl
    | backquote => exact .of_append [] ht (by decide) (by decide) rfl
    | commaAt => exact .of_append ['@'] ht (by decide) (by decide) rfl
    | comma =>
      have hhead : (t ++ rest).head? ≠ some (CodePoint.ofChar '@') := by
        cases t with
        | nil =>
          intro hr
          obtain ⟨rest', rfl⟩ := List.head?_eq_some_iff.1 hr
          cases hrest
        | cons c t => exact hat rfl
      refine .of_append [] ht (by decide) (by decide) ?_
      show (if (t ++ rest).head? = some (CodePoint.ofChar '@') then _ else _) = _
      rw [if_neg hhead]
      rfl
  refine ⟨p.shorthand m, ?_, congrArg m.apply hform⟩
  rw [List.length_append, ← Nat.add_assoc]
  exact hp.shorthand hmark hx.gap_self

end Reading

/-! ## Printed forms -/

namespace Shorthand

theorem ofItems?_apply (m : Shorthand) (f : Form) : ofItems? [.symbol m.head, f] = some m := by
  cases m <;> rfl

theorem ofItems?_eq_some {items : List Form} {m : Shorthand} (h : ofItems? items = some m) :
    ∃ f, items = [.symbol m.head, f] := by
  unfold ofItems? at h
  split at h
  · rename_i head f
    have hm := List.find?_some h
    rw [decide_eq_true_eq] at hm
    exact ⟨f, by rw [hm]⟩
  · cases h

theorem print_apply (m : Shorthand) (f : Form) : (m.apply f).print = m.mark ++ f.print := by
  rw [apply, Form.print, ofItems?_apply]
  simp only [Form.printTail, Form.printItems]

end Shorthand

namespace Form

/-- Only the name of an interned symbol puts an `@` in front. -/
theorem Printable.exists_of_head?_print {f : Form} (h : Printable f)
    (hat : f.print.head? = some (CodePoint.ofChar '@')) :
    ∃ name, f = .symbol (.intern name) ∧ name.head? = some (CodePoint.ofChar '@') := by
  cases h with
  | @symbol name h => exact ⟨name, rfl, hat⟩
  | uninterned h | string value => cases hat
  | @char code h hb =>
    obtain ⟨n, rfl⟩ := Int.eq_ofNat_of_zero_le h
    change (printChar n).head? = _ at hat
    unfold printChar at hat
    dsimp only at hat
    split at hat <;> cases hat
  | @int value h =>
    obtain ⟨t, ht⟩ := List.head?_eq_some_iff.1 hat
    have hint := spellsInteger_ofInt value
    rw [show Text.ofInt value = _ from ht] at hint
    cases hint
  | boolVector hl hd =>
    rw [print] at hat
    cases hat
  | vector kind h =>
    rw [print] at hat
    cases kind <;> cases hat
  | dotted hne h ht =>
    rw [print] at hat
    cases hat
  | shorthand m h hat' =>
    rw [Shorthand.print_apply] at hat
    cases m <;> cases hat
  | @list items h =>
    rw [print] at hat
    split at hat
    · rename_i m hm
      cases m <;> cases hat
    · cases hat

/-- The symbol of a comma has no plain name. -/
theorem not_printable_comma : ¬Printable (.symbol Shorthand.comma.head) := by
  intro h
  generalize hs : Form.symbol Shorthand.comma.head = f at h
  cases h with
  | symbol h =>
    cases hs
    have htoken := h.token _ List.mem_cons_self
    exact absurd htoken.2.1 (by decide)
  | _ => cases hs

section

variable {known : CharacterNames}

theorem Printable.denotes {f : Form} (h : Printable f) : Denotes f.print f := by
  induction h with
  | symbol h => exact h.denotes
  | uninterned h => exact h.denotes_uninterned
  | string value => exact denotes_string value
  | char h hb => exact denotes_char h hb
  | int h => exact denotes_int h
  | boolVector hl hd => exact denotes_boolVector hl hd
  | vector kind h ih => exact denotes_vector kind ih
  | dotted hne h ht ih iht => exact denotes_dotted hne ih iht
  | shorthand m h hat ih =>
    rw [Shorthand.print_apply]
    refine ih.shorthand m fun hm hhead => ?_
    obtain ⟨name, hf, hname⟩ := h.exists_of_head?_print hhead
    exact hat hm name hf hname
  | @list items h ih =>
    cases hm : Shorthand.ofItems? items with
    | none =>
      have hprint : (Form.list items).print = CodePoint.ofChar '(' ::
          (printItems items ++ [CodePoint.ofChar ')']) := by
        rw [print, hm]
        simp [Text.of]
      rw [hprint]
      exact (fills_printItems .list ih).denotes [] (by decide) (by decide)
        (fun _ _ => rfl) rfl
    | some m =>
      -- The head is printable on its own, so the mark is no comma.
      obtain ⟨f, rfl⟩ := Shorthand.ofItems?_eq_some hm
      have hcomma : m ≠ .comma := by
        rintro rfl
        exact not_printable_comma (h _ List.mem_cons_self)
      rw [show Form.list [.symbol m.head, f] = m.apply f from rfl, Shorthand.print_apply]
      exact (ih f (by simp)).shorthand m fun hm => absurd hm hcomma

theorem allFitDigitLimit_of_forall {items : List Form} (h : ∀ f ∈ items, f.fitsDigitLimit = true) :
    allFitDigitLimit items = true := by
  induction items with
  | nil => rfl
  | cons f items ih =>
    have hf := h f List.mem_cons_self
    have hitems := ih fun g hg => h g (List.mem_cons_of_mem _ hg)
    rw [allFitDigitLimit, hf, hitems]
    rfl

/-- A printable form has no integer that is too long to print. -/
theorem Printable.fitsDigitLimit {f : Form} (h : Printable f) : f.fitsDigitLimit = true := by
  induction h with
  | symbol | uninterned | string | char => rfl
  | int h => exact decide_eq_true h
  | boolVector hl hd => exact decide_eq_true hl
  | vector kind h ih =>
    rw [Form.fitsDigitLimit]
    exact allFitDigitLimit_of_forall ih
  | list h ih =>
    rw [Form.fitsDigitLimit]
    exact allFitDigitLimit_of_forall ih
  | dotted hne h ht ih iht =>
    rw [Form.fitsDigitLimit, allFitDigitLimit_of_forall ih, iht]
    rfl
  | shorthand m h hat ih =>
    rw [Shorthand.apply, Form.fitsDigitLimit]
    exact allFitDigitLimit_of_forall (by simp [ih, Form.fitsDigitLimit])

/-- A printable form is printed as a text that holds exactly that form, from its first
character to its last. -/
theorem Printable.readAll_toSource {f : Form} (h : Printable f) :
    ∃ text occurrences, f.toSource = .ok text ∧
      readAll text = .ok [⟨f, .ofNat 0 text.length, occurrences⟩] := by
  obtain ⟨p, hp, rfl⟩ := h.denotes f.print 0 [] (by simp) rfl
  rw [Nat.zero_add] at hp
  exact ⟨_, _, if_pos h.fitsDigitLimit, readAll_of_reads hp⟩

end

open SomeNames

theorem readAll_toSource_backquoted :
    let f := Shorthand.backquote.apply (.dotted [.symbol (.named "a"),
      Shorthand.commaAt.apply (.symbol (.named "b")), .string (Text.of "\""), .char 40, .int (-7)]
      (.symbol ⟨Text.of "c", false⟩))
    f.Printable ∧ ∃ text occurrences, f.toSource = .ok text ∧
      readAll text = .ok [⟨f, .ofNat 0 text.length, occurrences⟩] := by
  intro f
  have ha : Printable (.symbol (.named "a")) :=
    .symbol ⟨by decide, by decide, by decide, by decide, rfl, rfl⟩
  have hb : Printable (.symbol (.named "b")) :=
    .symbol ⟨by decide, by decide, by decide, by decide, rfl, rfl⟩
  have hc : Printable (.symbol ⟨Text.of "c", false⟩) := .uninterned (by decide)
  have hspliced : Printable (Shorthand.commaAt.apply (.symbol (.named "b"))) :=
    .shorthand .commaAt hb nofun
  have hint : Printable (.int (-7)) := .int (by decide +kernel)
  have hf : Printable f := by
    refine .shorthand .backquote (.dotted (by simp) ?_ hc) nofun
    simp only [List.forall_mem_cons, List.not_mem_nil, false_implies, implies_true, and_true]
    exact ⟨ha, hspliced, .string _, .char (by decide) (by decide), hint⟩
  exact ⟨hf, hf.readAll_toSource⟩

end Form

end LispXref
