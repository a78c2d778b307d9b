-- The console of the program. A text fails on it only at a tag that ends a style which is not
-- in force. Main statements: what it escapes is harmless, and it shows every message.
import LispXref.Proofs.Escaping
import LispXref.TagConsole

namespace LispXref.TagConsole

open Console (Backslashed)
open Markup

/-! ## Tags behind backslashes -/

theorem drop_takeWhile_length (t : Text) :
    t.drop (t.takeWhile isBackslash).length = t.dropWhile isBackslash := by
  have hsplit : t.takeWhile isBackslash ++ t.dropWhile isBackslash = t :=
    List.takeWhile_append_dropWhile
  have hdrop := congrArg (List.drop (t.takeWhile isBackslash).length) hsplit
  rw [List.drop_left] at hdrop
  exact hdrop.symm

theorem takeWhile_isBackslash (t : Text) :
    t.takeWhile isBackslash = backslashes (t.takeWhile isBackslash).length := by
  refine List.eq_replicate_of_mem fun c hc => ?_
  exact of_decide_eq_true (List.all_eq_true.1 List.all_takeWhile c hc)

/-- The text that a tag behind backslashes begins. -/
theorem eq_of_tagAt?_drop {t inside after : Text}
    (h : tagAt? (t.drop (t.takeWhile isBackslash).length) = some (inside, after)) :
    t = backslashes (t.takeWhile isBackslash).length ++ (bracketed inside ++ after) := by
  obtain ⟨hdrop, _⟩ := tagAt?_eq_some_iff.1 h
  have hsplit := Reading.append_drop_takeWhile isBackslash t
  rw [hdrop, takeWhile_isBackslash] at hsplit
  simpa [bracketed] using hsplit

/-! ## Styles -/

/-- The styles in force after a text, unless one of its tags ends a style that is not.
`odd` says whether an odd number of backslashes stands before the text. -/
def styles (odd : Bool) (inForce : List Text) : Text → Option (List Text)
  | [] => some inForce
  | c :: rest =>
    let next := match tagAt? (c :: rest) with
      | some (inside, _) => if odd then some inForce else (applyTag inForce 0 inside).toOption
      | none => some inForce
    next.bind fun s => styles (isBackslash c && !odd) s rest

theorem styles_cons_of_tagAt?_eq_none {c : CodePoint} {rest : Text} (h : tagAt? (c :: rest) = none)
    (odd : Bool) (s : List Text) : styles odd s (c :: rest) = styles (isBackslash c && !odd) s rest := by
  rw [styles, h]
  rfl

/-- Without an opening bracket there is no tag. -/
theorem styles_skip {u : Text} (h : ∀ c ∈ u, c ≠ '[') (odd : Bool) (s : List Text) (v : Text) :
    styles odd s (u ++ v) = styles (oddAfter odd u) s v := by
  induction u generalizing odd with
  | nil => rfl
  | cons c u ih =>
    rw [List.cons_append, styles_cons_of_tagAt?_eq_none (tagAt?_eq_none (h c List.mem_cons_self) _),
      ih fun d hd => h d (List.mem_cons_of_mem _ hd)]
    rfl

/-- A tag behind backslashes, an odd number of which make it plain text. -/
theorem styles_tag {inside : Text} (hin : ∀ c ∈ inside, isBracket c = false)
    (hstart : inside.head?.any startsTag = true) (odd : Bool) (s : List Text) (v : Text) :
    styles odd s (bracketed inside ++ v) =
      (if odd then some s else (applyTag s 0 inside).toOption).bind fun s' => styles false s' v := by
  have htext : bracketed inside ++ v =
      CodePoint.ofChar '[' :: (inside ++ CodePoint.ofChar ']' :: v) := by simp [bracketed]
  have hskip : ∀ s', styles false s' (inside ++ CodePoint.ofChar ']' :: v) = styles false s' v := by
    intro s'
    have hrun := styles_skip (fun c hc => ne_opening_of_mem_closed hin hc) false s' v
    rw [oddAfter_append, List.append_assoc, List.singleton_append] at hrun
    exact hrun
  rw [htext, styles, tagAt?_eq_some_iff.2 ⟨rfl, hin, hstart⟩]
  exact congrArg _ (funext hskip)

/-- Backslashes that no tag follows make no difference. -/
theorem styles_parity {t : Text} (h : tagAt? (t.dropWhile isBackslash) = none) (s : List Text) :
    styles true s t = styles false s t := by
  induction t with
  | nil => rfl
  | cons c rest ih =>
    by_cases hc : isBackslash c = true
    · have hbracket : c ≠ '[' := by
        rintro rfl
        cases hc
      rw [List.dropWhile_cons_of_pos hc] at h
      rw [styles_cons_of_tagAt?_eq_none (tagAt?_eq_none hbracket _),
        styles_cons_of_tagAt?_eq_none (tagAt?_eq_none hbracket _), hc]
      exact (ih h).symm
    · rw [List.dropWhile_cons_of_neg hc] at h
      rw [styles_cons_of_tagAt?_eq_none h, styles_cons_of_tagAt?_eq_none h,
        Bool.eq_false_iff.2 hc]
      rfl

theorem applyTag_toOption (s : List Text) (offset : Nat) (inside : Text) :
    (applyTag s offset inside).toOption = (applyTag s 0 inside).toOption := by
  unfold applyTag
  dsimp only
  split
  · split
    · cases s <;> rfl
    · split <;> rfl
  · rfl

/-- A text whose tags can be followed is shown. -/
theorem exists_renderSegments {t : Text} {s s' : List Text} (offset : Nat)
    (h : styles false s t = some s') :
    ∃ shown, renderSegments s (segments offset t) = .ok shown := by
  fun_induction segments generalizing s with
  | case1 => exact ⟨_, rfl⟩
  | case2 offset c rest slashes inside after htag =>
    rename_i ih
    obtain ⟨_, hin, hstart⟩ := tagAt?_eq_some_iff.1 htag
    have htext : c :: rest = backslashes slashes ++ (bracketed inside ++ after) :=
      eq_of_tagAt?_drop htag
    rw [htext, styles_skip fun d hd => ne_opening_of_mem_backslashes hd, oddAfter_backslashes,
      Bool.false_xor, styles_tag hin hstart] at h
    rw [renderSegments]
    split
    · rename_i hodd
      simp only [hodd, decide_true, if_true, Option.bind_some] at h
      obtain ⟨shown, hshown⟩ := ih h
      exact ⟨_, by rw [hshown]; rfl⟩
    · rename_i hodd
      simp only [hodd, decide_false, Bool.false_eq_true, if_false] at h
      obtain ⟨s₁, happly, hafter⟩ := Option.bind_eq_some_iff.1 h
      rw [← applyTag_toOption s (offset + slashes)] at happly
      obtain ⟨shown, hshown⟩ := ih hafter
      cases hres : applyTag s (offset + slashes) inside with
      | error e =>
        rw [hres] at happly
        cases happly
      | ok s₂ =>
        rw [hres] at happly
        cases happly
        exact ⟨_, by simp only [hshown]; rfl⟩
  | case3 offset c rest slashes htag =>
    rename_i ih
    rw [drop_takeWhile_length] at htag
    have hplain : tagAt? (c :: rest) = none := by
      by_cases hc : isBackslash c = true
      · refine tagAt?_eq_none ?_ rest
        rintro rfl
        cases hc
      · rwa [List.dropWhile_cons_of_neg hc] at htag
    rw [styles_cons_of_tagAt?_eq_none hplain, Bool.not_false, Bool.and_true] at h
    have hrest : styles false s rest = some s' := by
      by_cases hc : isBackslash c = true
      · rw [List.dropWhile_cons_of_pos hc] at htag
        rw [hc, styles_parity htag] at h
        exact h
      · rw [Bool.eq_false_iff.2 hc] at h
        exact h
    obtain ⟨shown, hshown⟩ := ih hrest
    unfold Segment.push
    split
    · rename_i t segs hsegs
      rw [hsegs, renderSegments] at hshown
      rw [renderSegments]
      cases hr : renderSegments s segs with
      | error e =>
        rw [hr] at hshown
        cases hshown
      | ok shown => exact ⟨_, rfl⟩
    · rw [renderSegments, hshown]
      exact ⟨_, rfl⟩

/-! ## Texts side by side -/

theorem tagAt?_append {c : CodePoint} {u v : Text} (h : Apart (c :: u) v) :
    (tagAt? (c :: (u ++ v))).map Prod.fst = (tagAt? (c :: u)).map Prod.fst := by
  cases hu : tagAt? (c :: u) with
  | some found =>
    obtain ⟨inside, after⟩ := found
    obtain ⟨heq, hin, hstart⟩ := tagAt?_eq_some_iff.1 hu
    have heq' : c :: (u ++ v) =
        CodePoint.ofChar '[' :: (inside ++ CodePoint.ofChar ']' :: (after ++ v)) := by
      rw [← List.cons_append, heq]
      simp
    rw [tagAt?_eq_some_iff.2 ⟨heq', hin, hstart⟩]
    rfl
  | none =>
    cases huv : tagAt? (c :: (u ++ v)) with
    | none => rfl
    | some found =>
      obtain ⟨inside, after⟩ := found
      obtain ⟨heq, hin, hstart⟩ := tagAt?_eq_some_iff.1 huv
      obtain ⟨rfl, hrest⟩ := List.cons.inj heq
      -- The tag ends in the second text, or it was there before.
      have hopen : ∀ d ∈ u, isBracket d = false := by
        rcases List.append_eq_append_iff.1 hrest with ⟨w, rfl, _⟩ | ⟨w, rfl, hw⟩
        · exact fun d hd => hin d (List.mem_append_left w hd)
        · cases w with
          | nil => simpa using hin
          | cons d w =>
            obtain ⟨rfl, rfl⟩ := List.cons.inj hw
            rw [tagAt?_eq_some_iff.2 ⟨rfl, hin, hstart⟩] at hu
            cases hu
      rw [h [] u rfl hopen] at huv
      cases huv

theorem styles_append {u v : Text} (h : Apart u v) (odd : Bool) (s : List Text) :
    styles odd s (u ++ v) = (styles odd s u).bind fun s' => styles (oddAfter odd u) s' v := by
  induction u generalizing odd s with
  | nil => rfl
  | cons c u ih =>
    have hstep : ∀ t : Text, styles odd s (c :: t) =
        (((tagAt? (c :: t)).map Prod.fst).elim (some s) fun inside =>
          if odd then some s else (applyTag s 0 inside).toOption).bind
            fun s' => styles (isBackslash c && !odd) s' t := by
      intro t
      rw [styles]
      cases tagAt? (c :: t) <;> rfl
    rw [List.cons_append, hstep, hstep, tagAt?_append h, Option.bind_assoc]
    refine congrArg _ (funext fun s' => ?_)
    rw [ih h.tail]
    rfl

/-! ## Harmless texts -/

/-- The name of the style that a tag starts. -/
def tagStyle (inside : Text) : Text :=
  styleName (inside.takeWhile fun c => c ≠ CodePoint.ofChar '=')

theorem applyTag_of_head?_ne {inside : Text} (h : inside.head? ≠ some (CodePoint.ofChar '/'))
    (s : List Text) : applyTag s 0 inside = .ok (tagStyle inside :: s) := by
  have hname : (inside.takeWhile fun c => c ≠ CodePoint.ofChar '=').head? ≠
      some (CodePoint.ofChar '/') := by
    cases inside with
    | nil => simp
    | cons c rest =>
      rw [List.takeWhile_cons]
      split
      · exact h
      · simp
  unfold applyTag
  simp only [if_neg hname]
  rfl

/-- A style that is in force can be ended. -/
theorem exists_applyTag_slash {inside : Text} {s : List Text} (h : tagStyle inside ∈ s) :
    ∃ s', applyTag s 0 (CodePoint.ofChar '/' :: inside) = .ok s' := by
  have hname : (CodePoint.ofChar '/' :: inside).takeWhile (fun c => c ≠ CodePoint.ofChar '=') =
      CodePoint.ofChar '/' :: inside.takeWhile fun c => c ≠ CodePoint.ofChar '=' :=
    List.takeWhile_cons_of_pos (by decide)
  unfold applyTag
  simp only [hname, List.head?_cons, if_true, List.tail_cons]
  split
  · cases s with
    | nil => cases h
    | cons style s => exact ⟨_, rfl⟩
  · rw [tagStyle] at h
    rw [if_pos (List.contains_iff_mem.2 h)]
    exact ⟨_, rfl⟩

/-- A harmless text ends no style, whatever styles are in force. -/
theorem styles_of_harmless {odd : Bool} {t : Text} (h : harmless odd t = true) (s : List Text) :
    ∃ s', styles odd s t = some s' ∧ s <:+ s' := by
  induction t generalizing odd s with
  | nil => exact ⟨s, rfl, List.suffix_refl s⟩
  | cons c rest ih =>
    rw [harmless, Bool.and_eq_true, Bool.or_eq_true, Bool.not_eq_true'] at h
    obtain ⟨hc, hrest⟩ := h
    have hnext : ∃ s₁, (match tagAt? (c :: rest) with
        | some (inside, _) => if odd then some s else (applyTag s 0 inside).toOption
        | none => some s) = some s₁ ∧ s <:+ s₁ := by
      cases htag : tagAt? (c :: rest) with
      | none => exact ⟨s, rfl, List.suffix_refl s⟩
      | some found =>
        rcases hc with rfl | hc
        · exact ⟨s, rfl, List.suffix_refl s⟩
        · cases odd with
          | true => exact ⟨s, rfl, List.suffix_refl s⟩
          | false =>
            rw [endsStyle, htag, decide_eq_false_iff_not] at hc
            have happly := applyTag_of_head?_ne hc s
            exact ⟨_, by simp only [happly]; rfl, List.suffix_cons _ s⟩
    obtain ⟨s₁, hs₁, hsuffix₁⟩ := hnext
    obtain ⟨s', hs', hsuffix⟩ := ih hrest s₁
    refine ⟨s', ?_, hsuffix₁.trans hsuffix⟩
    rw [styles]
    simp only [hs₁]
    exact hs'

/-! ## Escaped texts -/

/-- The second text is the first with its tags escaped. -/
inductive Escaped : Text → Text → Prop
  | nil : Escaped [] []
  | tag (n : Nat) {inside after e : Text} (hin : ∀ c ∈ inside, isBracket c = false)
      (hstart : inside.head?.any startsTag = true) (h : Escaped after e) :
      Escaped (backslashes n ++ (bracketed inside ++ after))
        (backslashes (2 * n + 1) ++ (bracketed inside ++ e))
  | plain {c : CodePoint} {rest e : Text} (hc : tagAt? ((c :: rest).dropWhile isBackslash) = none)
      (h : Escaped rest e) : Escaped (c :: rest) (c :: e)

theorem flatMap_escape_push (c : CodePoint) (segs : List Segment) :
    (Segment.push c segs).flatMap Segment.escape = c :: segs.flatMap Segment.escape := by
  unfold Segment.push
  split <;> rfl

theorem escaped_segments (offset : Nat) (t : Text) :
    Escaped t ((segments offset t).flatMap Segment.escape) := by
  fun_induction segments with
  | case1 => exact .nil
  | case2 offset c rest slashes inside after htag =>
    rename_i ih
    obtain ⟨_, hin, hstart⟩ := tagAt?_eq_some_iff.1 htag
    have htext : c :: rest = backslashes slashes ++ (bracketed inside ++ after) :=
      eq_of_tagAt?_drop htag
    rw [htext, List.flatMap_cons, Segment.escape, List.append_assoc]
    exact .tag slashes hin hstart ih
  | case3 offset c rest slashes htag =>
    rename_i ih
    rw [flatMap_escape_push]
    rw [drop_takeWhile_length] at htag
    exact .plain htag ih

namespace Escaped

variable {t e : Text}

theorem find?_isBracket (h : Escaped t e) : e.find? isBracket = t.find? isBracket := by
  have hslashes : ∀ n, (backslashes n).find? isBracket = none := fun n =>
    find?_isBracket_eq_none fun c hc => by
      rw [List.eq_of_mem_replicate hc]
      rfl
  induction h with
  | nil => rfl
  | tag n hin hstart h ih =>
    simp only [List.find?_append, hslashes]
    rfl
  | @plain c rest e hc h ih => rw [List.find?_cons, List.find?_cons, ih]

theorem backslashed (h : Escaped t e) : Backslashed t e := by
  induction h with
  | nil => exact .nil
  | @tag n inside after e hin hstart h ih =>
    have hsplit : backslashes (2 * n + 1) = backslashes n ++ backslashes (n + 1) := by
      rw [backslashes, backslashes, backslashes, List.replicate_append_replicate]
      congr 1
      omega
    rw [hsplit, List.append_assoc]
    exact ((ih.append_left _).add_backslashes _).append_left _
  | @plain c rest e hc h ih => exact .keep c ih

theorem dropWhile_backslashes (n : Nat) (inside after : Text) :
    (backslashes n ++ (bracketed inside ++ after)).dropWhile isBackslash =
      bracketed inside ++ after := by
  induction n with
  | zero => rfl
  | succ n ih => exact ih

/-- Every tag of an escaped text stands behind an odd number of backslashes. -/
theorem harmless (h : Escaped t e) {odd : Bool}
    (hodd : odd = true → tagAt? (t.dropWhile isBackslash) = none) : harmless odd e = true := by
  induction h generalizing odd with
  | nil => rfl
  | @tag n inside after e hin hstart h ih =>
    have heven : odd = false := by
      rw [← Bool.not_eq_true]
      intro ho
      have hnone := hodd ho
      have htag : tagAt? (bracketed inside ++ after) = some (inside, after) :=
        tagAt?_eq_some_iff.2 ⟨by simp [bracketed], hin, hstart⟩
      rw [dropWhile_backslashes, htag] at hnone
      cases hnone
    subst heven
    have hparity : (2 * n + 1) % 2 = 1 := by omega
    have hrest : Markup.harmless false (inside ++ [CodePoint.ofChar ']'] ++ e) = true := by
      rw [harmless_skip fun c hc => ne_opening_of_mem_closed hin hc, oddAfter_append]
      exact ih fun h => absurd h Bool.false_ne_true
    rw [harmless_skip fun c hc => ne_opening_of_mem_backslashes hc, oddAfter_backslashes, hparity]
    have htext : bracketed inside ++ e =
        CodePoint.ofChar '[' :: (inside ++ [CodePoint.ofChar ']'] ++ e) := by simp [bracketed]
    rw [htext, Markup.harmless]
    exact hrest
  | @plain c rest e hc h ih =>
    have hplain : c = '[' → tagAt? (c :: rest) = none := by
      rintro rfl
      exact hc
    have hends : endsStyle (c :: e) = false := by
      rw [← Bool.not_eq_true, endsStyle_iff]
      rintro ⟨rfl, hhead, hfind⟩
      rw [h.find?_isBracket] at hfind
      have hends := endsStyle_iff.2 ⟨rfl, h.backslashed.head?_eq_slash hhead, hfind⟩
      rw [endsStyle, hplain rfl] at hends
      cases hends
    rw [Markup.harmless, hends, Bool.not_false, Bool.or_true, Bool.true_and]
    refine ih fun hnext => ?_
    rw [Bool.and_eq_true] at hnext
    rwa [List.dropWhile_cons_of_pos hnext.1] at hc

end Escaped

/-- Escaping may put one more backslash behind the text. -/
theorem escape_eq (t : Text) : ∃ e, Escaped t e ∧ (escape t = e ∨ escape t = e ++ backslashes 1) := by
  refine ⟨_, escaped_segments 0 t, ?_⟩
  unfold escape
  dsimp only
  split
  · exact .inr rfl
  · exact .inl rfl

/-- An escaped text is harmless. -/
theorem harmless_escape (t : Text) : harmless false (escape t) = true := by
  obtain ⟨e, he, heq | heq⟩ := escape_eq t
  · rw [heq]
    exact he.harmless nofun
  · rw [heq]
    refine harmless_append_of_apart (he.harmless nofun) ?_ (apart_of_find?_ne e (by decide))
    cases oddAfter false e <;> decide

/-- What is escaped is not taken for markup. -/
theorem escapesTags_console : console.EscapesTags := by
  refine ⟨fun t => ?_, harmless_escape⟩
  show Backslashed t (escape t)
  obtain ⟨e, he, heq | heq⟩ := escape_eq t
  · rw [heq]
    exact he.backslashed
  · rw [heq]
    exact he.backslashed.concat

/-! ## Messages -/

/-- Every style of a message is ended while it is in force. -/
theorem exists_styles {t : Text} (h : Message t) (s : List Text) :
    ∃ s', styles false s t = some s' := by
  induction h generalizing s with
  | harmless h =>
    obtain ⟨s', hs', _⟩ := styles_of_harmless h s
    exact ⟨s', hs'⟩
  | @styled gap style t v hgap hstyle ht hv ih =>
    have hgaps : ∀ gap ∈ gaps, (∀ c ∈ gap, c ≠ '[') ∧ oddAfter false gap = false := by decide
    have hnames : ∀ style ∈ styleNames, (∀ c ∈ Text.of style, isBracket c = false) ∧
        (Text.of style).head?.any startsTag = true ∧
        (Text.of style).head? ≠ some (CodePoint.ofChar '/') := by decide
    obtain ⟨hskip, heven⟩ := hgaps gap hgap
    obtain ⟨hin, hstart, hslash⟩ := hnames style hstyle
    have hin' : ∀ c ∈ CodePoint.ofChar '/' :: Text.of style, isBracket c = false :=
      List.forall_mem_cons.2 ⟨rfl, hin⟩
    obtain ⟨s₁, hs₁, hsuffix⟩ := styles_of_harmless ht (tagStyle (Text.of style) :: s)
    obtain ⟨s₂, hs₂⟩ := exists_applyTag_slash (hsuffix.subset List.mem_cons_self)
    have hend : ∃ s₃, styles (oddAfter false t) s₁
        (bracketed (CodePoint.ofChar '/' :: Text.of style) ++ v) = some s₃ := by
      rw [styles_tag hin' rfl]
      split
      · exact ih s₁
      · rw [hs₂]
        exact ih s₂
    obtain ⟨s₃, hs₃⟩ := hend
    have hapart : Apart t (bracketed (CodePoint.ofChar '/' :: Text.of style) ++ v) :=
      apart_of_find?_ne t (show some (CodePoint.ofChar '[') ≠ some (CodePoint.ofChar ']') by decide)
    have hshape : gap ++ Markup.styled style t ++ v = gap ++ (bracketed (Text.of style) ++
        (t ++ (bracketed (CodePoint.ofChar '/' :: Text.of style) ++ v))) := by
      simp only [Markup.styled, List.append_assoc]
      rfl
    refine ⟨s₃, ?_⟩
    rw [hshape, styles_skip hskip, heven, styles_tag hin hstart, applyTag_of_head?_ne hslash]
    simp only [Bool.false_eq_true, if_false, Except.toOption, Option.bind_some]
    rw [styles_append hapart, hs₁]
    exact hs₃

/-- Every message is shown. -/
theorem showsMessages_console : console.ShowsMessages := by
  intro t h
  obtain ⟨s', hs'⟩ := exists_styles h []
  obtain ⟨shown, hshown⟩ := exists_renderSegments 0 hs'
  refine ⟨shown, ?_⟩
  show (render t).mapError Error.message = .ok shown
  rw [render, hshown]
  rfl

end LispXref.TagConsole
