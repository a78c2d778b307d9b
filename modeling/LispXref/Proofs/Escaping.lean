-- Escaped texts. Main statement: a text in which backslashes were added begins no tag that ends
-- a style where it began none before.
import LispXref.Console
import LispXref.Proofs.Markup
import Mathlib.Data.List.Infix

namespace LispXref

namespace Markup

/-- How a tag that ends a style begins. -/
def endMark : Text := [CodePoint.ofChar '[', CodePoint.ofChar '/']

end Markup

namespace Console.Backslashed

open Markup

variable {t e : Text}

theorem append_left (u : Text) (h : Backslashed t e) : Backslashed (u ++ t) (u ++ e) := by
  induction u with
  | nil => exact h
  | cons c u ih => exact .keep c ih

theorem add_backslashes (n : Nat) (h : Backslashed t e) : Backslashed t (backslashes n ++ e) := by
  induction n with
  | zero => exact h
  | succ n ih => exact .add ih

/-- A backslash may stand behind the text too. -/
theorem concat (h : Backslashed t e) : Backslashed t (e ++ backslashes 1) := by
  induction h with
  | nil => exact .add .nil
  | keep c h ih => exact .keep c ih
  | add h ih => exact .add ih

theorem head?_eq_slash (h : Backslashed t e) (he : e.head? = some (CodePoint.ofChar '/')) :
    t.head? = some (CodePoint.ofChar '/') := by
  cases h with
  | nil => exact he
  | keep c h => exact he
  | add h => cases he

/-- Backslashes make no such beginning. -/
theorem endMark_isInfix (h : Backslashed t e) (hi : endMark <:+: e) : endMark <:+: t := by
  induction h with
  | nil => exact hi
  | @keep c t e h ih =>
    rcases List.infix_cons_iff.1 hi with hslash | hrest
    · obtain ⟨w, hw⟩ := hslash
      obtain ⟨rfl, rfl⟩ := List.cons.inj hw
      obtain ⟨rest, rfl⟩ := List.head?_eq_some_iff.1 (h.head?_eq_slash rfl)
      exact ⟨[], rest, rfl⟩
    · exact List.infix_cons (ih hrest)
  | @add t e h ih =>
    rcases List.infix_cons_iff.1 hi with hslash | hrest
    · obtain ⟨w, hw⟩ := hslash
      cases (List.cons.inj hw).1
    · exact ih hrest

end Console.Backslashed

end LispXref
