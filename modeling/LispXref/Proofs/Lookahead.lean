-- How far reading looks ahead. Main statement: forms that were read depend on no more
-- of the text than their characters and one character after the last of them.
import LispXref.Proofs.Sequence
import LispXref.Reading.SomeNames

namespace LispXref

namespace Reading

/-- The answers to the first requests for a form. -/
def Session.answers [CharacterNames] : Nat → Session → List (Except Fault (Option Positioned))
  | 0, _ => []
  | k + 1, s => s.readNext.1 :: answers k s.readNext.2

variable {known : CharacterNames}

/-- A request is answered with a form exactly if one stands next. -/
theorem Session.readNext_eq_form_iff {text : Text} {q : Nat} {p : Positioned} {s : Session} :
    Session.readNext ⟨text, q⟩ = (.ok (some p), s) ↔
      ∃ l, Gap text q l.start ∧ Laid text l ∧ p = l.positioned ∧ s = ⟨text, l.stop⟩ := by
  constructor
  · intro h
    unfold readNext at h
    split at h
    · rename_i p' next hn
      cases h
      obtain ⟨l, hl, hg, rfl, rfl⟩ := exists_laid_of_nextForm hn
      exact ⟨l, hg, hl, rfl, rfl⟩
    · cases h
    · cases h
  · rintro ⟨l, hg, hl, rfl, rfl⟩
    unfold readNext
    rw [hl.reads.nextForm hg]
    rfl

/-- All of the first requests are answered with a form exactly if so many forms stand in
sequence. -/
theorem Session.answers_eq_forms_iff {text : Text} {q k : Nat} {ps : List Positioned} :
    Session.answers k ⟨text, q⟩ = ps.map (fun p => .ok (some p)) ↔
      ∃ ls e, Follow text q ls e ∧ ls.length = k ∧ ps = ls.map Layout.positioned := by
  induction k generalizing q ps with
  | zero =>
    constructor
    · intro h
      refine ⟨[], q, rfl, rfl, ?_⟩
      exact List.map_eq_nil_iff.1 h.symm
    · rintro ⟨ls, e, _, hlen, rfl⟩
      rw [List.length_eq_zero_iff.1 hlen]
      rfl
  | succ k ih =>
    constructor
    · intro h
      cases ps with
      | nil => cases h
      | cons p ps =>
        rw [answers, List.map_cons, List.cons.injEq] at h
        obtain ⟨hfirst, hrest⟩ := h
        generalize hs : readNext ⟨text, q⟩ = answer at hfirst hrest
        obtain ⟨a, s⟩ := answer
        cases hfirst
        obtain ⟨l, hg, hl, rfl, rfl⟩ := readNext_eq_form_iff.1 hs
        obtain ⟨ls, e, hfollow, rfl, rfl⟩ := ih.1 hrest
        exact ⟨l :: ls, e, ⟨hg, hl, hfollow⟩, rfl, rfl⟩
    · rintro ⟨ls, e, hfollow, hlen, rfl⟩
      cases ls with
      | nil => cases hlen
      | cons l ls =>
        obtain ⟨hg, hl, hrest⟩ := hfollow
        have hnext := readNext_eq_form_iff.2 ⟨l, hg, hl, rfl, rfl⟩
        rw [answers, hnext, List.map_cons, List.map_cons, List.cons.injEq]
        exact ⟨rfl, ih.2 ⟨ls, e, hrest, Nat.succ.inj hlen, rfl⟩⟩

/-- Texts with the same first characters agree up to before the last of them. -/
theorem agree_of_take_eq {text text' : Text} {e : Nat}
    (h : text'.take (e + 1) = text.take (e + 1)) : Agree text text' e where
  take_eq := by
    have htake := congrArg (List.take e) h
    rw [List.take_take, List.take_take, Nat.min_eq_left (Nat.le_succ e)] at htake
    exact htake
  seam := by
    left
    have hget := congrArg (fun t : Text => t[e]?) h
    simp only [List.getElem?_take_of_succ] at hget
    rw [List.head?_drop, List.head?_drop, hget]

end Reading

open Reading

section

variable {known : CharacterNames}

/-- Reading looks one character ahead. If the first requests for a form are all answered
with one, and another text agrees with this one on all characters up to one after the
last form, then the same requests have the same answers there. -/
theorem answers_eq_of_take_eq {text text' : Text} {k : Nat} {ps : List Positioned}
    (h : (Session.ofText text).answers k = ps.map fun p => .ok (some p))
    (hagree : ∀ p, ps.getLast? = some p →
      text'.take (p.span.stop.toNat + 1) = text.take (p.span.stop.toNat + 1)) :
    (Session.ofText text').answers k = ps.map fun p => .ok (some p) := by
  obtain ⟨ls, e, hfollow, hlen, rfl⟩ := Session.answers_eq_forms_iff.1 h
  cases hlast : ls.getLast? with
  | none =>
    obtain rfl := List.getLast?_eq_none_iff.1 hlast
    exact Session.answers_eq_forms_iff.2 ⟨[], 0, rfl, hlen, rfl⟩
  | some l =>
    have hstop := hfollow.stop_eq hlast
    have htake := hagree l.positioned (by rw [List.getLast?_map, hlast]; rfl)
    have hspan : l.positioned.span.stop.toNat = e := hstop
    rw [hspan] at htake
    have ha := agree_of_take_eq htake
    exact Session.answers_eq_forms_iff.2 ⟨ls, e, hfollow.of_agree ha, hlen, rfl⟩

end

open SomeNames

theorem answers_eq_of_take_eq_malformed_rest :
    (Session.ofText (Text.of "(a) 'b (c)")).answers 2 =
      [.ok (some ⟨.list [.symbol (.named "a")], .ofNat 0 3, [⟨.named "a", 1, 1⟩]⟩),
        .ok (some ⟨.quoted (.symbol (.named "b")), .ofNat 4 6, [⟨.named "b", 1, 1⟩]⟩)] ∧
    (Session.ofText (Text.of "(a) 'b )")).answers 2 =
      [.ok (some ⟨.list [.symbol (.named "a")], .ofNat 0 3, [⟨.named "a", 1, 1⟩]⟩),
        .ok (some ⟨.quoted (.symbol (.named "b")), .ofNat 4 6, [⟨.named "b", 1, 1⟩]⟩)] := by
  have hread : (Session.ofText (Text.of "(a) 'b (c)")).answers 2 =
      List.map (fun p => .ok (some p))
        [⟨.list [.symbol (.named "a")], .ofNat 0 3, [⟨.named "a", 1, 1⟩]⟩,
          ⟨.quoted (.symbol (.named "b")), .ofNat 4 6, [⟨.named "b", 1, 1⟩]⟩] := by decide +kernel
  refine ⟨hread, answers_eq_of_take_eq hread ?_⟩
  rintro p ⟨⟩
  decide

end LispXref
