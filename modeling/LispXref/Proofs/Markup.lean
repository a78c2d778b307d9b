-- Tags of marked-up texts, and texts that are harmless side by side. Main statements: harmless
-- texts make a harmless text unless one begins a tag that the other ends, and stay harmless
-- when glyphs are replaced by their stand-ins.
import LispXref.Markup
import LispXref.Proofs.Digits
import LispXref.Proofs.Seam.Basic
import LispXref.Terminal

namespace LispXref.Markup

/-! ## Tags -/

theorem tagAt?_eq_some_iff {t inside after : Text} :
    tagAt? t = some (inside, after) ↔
      t = CodePoint.ofChar '[' :: (inside ++ CodePoint.ofChar ']' :: after) ∧
        (∀ c ∈ inside, isBracket c = false) ∧ inside.head?.any startsTag = true := by
  constructor
  · intro h
    cases t with
    | nil => cases h
    | cons c rest =>
      unfold tagAt? at h
      dsimp only at h
      split at h
      · cases h
      · rename_i d rest' hd
        split at h
        · rename_i hc
          obtain ⟨rfl, rfl, hstart⟩ := hc
          cases h
          refine ⟨?_, ?_, hstart⟩
          · rw [← hd]
            exact congrArg _ (Reading.append_drop_takeWhile _ rest)
          · intro e he
            simpa using List.all_eq_true.1 List.all_takeWhile e he
        · cases h
  · rintro ⟨rfl, hin, hstart⟩
    have hrun : (inside ++ CodePoint.ofChar ']' :: after).takeWhile (fun d => !isBracket d) =
        inside := by
      rw [List.takeWhile_append_of_pos fun c hc => by simp [hin c hc],
        List.takeWhile_cons_of_neg (by decide), List.append_nil]
    unfold tagAt?
    simp only [hrun, List.drop_left, hstart, and_self, if_true]

theorem tagAt?_eq_none {c : CodePoint} (h : c ≠ '[') (t : Text) : tagAt? (c :: t) = none := by
  cases ht : tagAt? (c :: t) with
  | none => rfl
  | some found =>
    obtain ⟨heq, _⟩ := tagAt?_eq_some_iff.1 ht
    cases heq
    exact absurd rfl h

theorem find?_isBracket_eq_none {t : Text} (h : ∀ c ∈ t, isBracket c = false) :
    t.find? isBracket = none :=
  List.find?_eq_none.2 fun c hc => by simp [h c hc]

theorem ne_opening_of_mem_closed {inside : Text} (hin : ∀ c ∈ inside, isBracket c = false)
    {c : CodePoint} (hc : c ∈ inside ++ [CodePoint.ofChar ']']) : c ≠ '[' := by
  rintro rfl
  rw [List.mem_append, List.mem_singleton] at hc
  rcases hc with hc | hc
  · cases hin _ hc
  · cases hc

/-- Such a tag is a bracket and a slash before the next bracket, which closes it. -/
theorem endsStyle_iff {c : CodePoint} {t : Text} :
    endsStyle (c :: t) = true ↔ c = '[' ∧ t.head? = some (CodePoint.ofChar '/') ∧
      t.find? isBracket = some (CodePoint.ofChar ']') := by
  unfold endsStyle
  constructor
  · intro h
    split at h
    · rename_i inside after ht
      obtain ⟨heq, hin, _⟩ := tagAt?_eq_some_iff.1 ht
      cases heq
      obtain ⟨rest, rfl⟩ := List.head?_eq_some_iff.1 (of_decide_eq_true h)
      exact ⟨rfl, rfl, by rw [List.find?_append, find?_isBracket_eq_none hin]; rfl⟩
    · cases h
  · rintro ⟨rfl, hhead, hfind⟩
    obtain ⟨-, as, bs, rfl, has⟩ := List.find?_eq_some_iff_append.1 hfind
    have hslash : as.head? = some (CodePoint.ofChar '/') := by
      cases as with
      | nil => cases hhead
      | cons c as => exact hhead
    have htag : tagAt? (CodePoint.ofChar '[' :: (as ++ CodePoint.ofChar ']' :: bs)) =
        some (as, bs) := by
      refine tagAt?_eq_some_iff.2 ⟨rfl, fun c hc => by simpa using has c hc, ?_⟩
      rw [hslash]
      rfl
    rw [htag]
    exact decide_eq_true hslash

/-! ## Backslashes -/

theorem ne_opening_of_mem_backslashes {n : Nat} {c : CodePoint} (h : c ∈ backslashes n) : c ≠ '[' := by
  rw [List.eq_of_mem_replicate h]
  decide

/-- Whether an odd number of backslashes stands at the end of a text, when an odd number
stands before it or not. -/
def oddAfter (odd : Bool) (t : Text) : Bool := t.foldl (fun odd c => isBackslash c && !odd) odd

theorem oddAfter_append (odd : Bool) (u v : Text) :
    oddAfter odd (u ++ v) = oddAfter (oddAfter odd u) v := List.foldl_append

theorem oddAfter_backslashes (odd : Bool) (n : Nat) :
    oddAfter odd (backslashes n) = (odd ^^ decide (n % 2 = 1)) := by
  induction n generalizing odd with
  | zero => simp [oddAfter, backslashes]
  | succ n ih =>
    have hstep : oddAfter odd (backslashes (n + 1)) = oddAfter (!odd) (backslashes n) := rfl
    rw [hstep, ih]
    rcases Nat.mod_two_eq_zero_or_one n with h | h
    · have hs : (n + 1) % 2 = 1 := by omega
      simp [h, hs]
    · have hs : (n + 1) % 2 = 0 := by omega
      simp [h, hs]

/-! ## Texts side by side -/

/-- No tag begins in the first text and ends in the second. -/
def Apart (u v : Text) : Prop :=
  ∀ a m, u = a ++ CodePoint.ofChar '[' :: m → (∀ c ∈ m, isBracket c = false) →
    tagAt? (CodePoint.ofChar '[' :: (m ++ v)) = none

theorem Apart.tail {c : CodePoint} {u v : Text} (h : Apart (c :: u) v) : Apart u v := by
  intro a m hu hm
  exact h (c :: a) m (by rw [hu, List.cons_append]) hm

/-- A tag that ends in the second text needs a bracket there that closes it. -/
theorem apart_of_find?_ne (u : Text) {v : Text}
    (h : v.find? isBracket ≠ some (CodePoint.ofChar ']')) : Apart u v := by
  intro a m _ hm
  cases ht : tagAt? (CodePoint.ofChar '[' :: (m ++ v)) with
  | none => rfl
  | some found =>
    obtain ⟨inside, after⟩ := found
    obtain ⟨heq, hin, _⟩ := tagAt?_eq_some_iff.1 ht
    have hfind := congrArg (List.find? isBracket) (List.cons.inj heq).2
    rw [List.find?_append, List.find?_append, find?_isBracket_eq_none hm,
      find?_isBracket_eq_none hin] at hfind
    exact absurd hfind h

/-- A tag that begins in the first text needs a bracket there that opens it. -/
theorem apart_of_find?_reverse_ne {u : Text} (v : Text)
    (h : u.reverse.find? isBracket ≠ some (CodePoint.ofChar '[')) : Apart u v := by
  intro a m hu hm
  have hnone : m.reverse.find? isBracket = none :=
    find?_isBracket_eq_none fun c hc => hm c (List.mem_reverse.1 hc)
  refine absurd ?_ h
  rw [hu, List.reverse_append, List.reverse_cons, List.find?_append, List.find?_append, hnone]
  rfl

/-! ## Harmless texts -/

theorem harmless_skip {u : Text} (h : ∀ c ∈ u, c ≠ '[') (odd : Bool) (v : Text) :
    harmless odd (u ++ v) = harmless (oddAfter odd u) v := by
  induction u generalizing odd with
  | nil => rfl
  | cons c u ih =>
    have hends : endsStyle (c :: (u ++ v)) = false := by
      rw [endsStyle, tagAt?_eq_none (h c List.mem_cons_self)]
    rw [List.cons_append, harmless, hends, ih fun d hd => h d (List.mem_cons_of_mem _ hd),
      Bool.not_false, Bool.or_true, Bool.true_and]
    rfl

/-- Harmless texts are harmless side by side, unless one begins a tag that the other ends. -/
theorem harmless_append {odd : Bool} {u v : Text} (hu : harmless odd u = true)
    (hv : harmless (oddAfter odd u) v = true)
    (h : ∀ a m, u = a ++ CodePoint.ofChar '[' :: m → (∀ c ∈ m, isBracket c = false) →
      endsStyle (CodePoint.ofChar '[' :: (m ++ v)) = false) :
    harmless odd (u ++ v) = true := by
  induction u generalizing odd with
  | nil => exact hv
  | cons c u ih =>
    rw [harmless, Bool.and_eq_true] at hu
    have hrest := ih hu.2 hv fun a m ha hm => h (c :: a) m (by rw [ha, List.cons_append]) hm
    rw [List.cons_append, harmless, hrest, Bool.and_true]
    rcases Bool.or_eq_true_iff.1 hu.1 with hodd | hends
    · rw [hodd, Bool.true_or]
    · rw [Bool.not_eq_true'] at hends
      have hends' : endsStyle (c :: (u ++ v)) = false := by
        by_cases hc : c = '['
        · subst hc
          by_cases hbracket : ∀ d ∈ u, isBracket d = false
          · exact h [] u rfl hbracket
          · rw [← Bool.not_eq_true, endsStyle_iff] at hends ⊢
            have hfind : (u ++ v).find? isBracket = u.find? isBracket := by
              rw [List.find?_append]
              cases hu : u.find? isBracket with
              | some d => rfl
              | none =>
                refine absurd (fun d hd => ?_) hbracket
                simpa using List.find?_eq_none.1 hu d hd
            have hhead : (u ++ v).head? = u.head? := by
              cases u with
              | nil => exact absurd (fun d hd => absurd hd List.not_mem_nil) hbracket
              | cons d u => rfl
            rw [hfind, hhead]
            exact hends
        · rw [endsStyle, tagAt?_eq_none hc]
      rw [hends', Bool.not_false, Bool.or_true]

theorem harmless_append_of_apart {odd : Bool} {u v : Text} (hu : harmless odd u = true)
    (hv : harmless (oddAfter odd u) v = true) (h : Apart u v) : harmless odd (u ++ v) = true := by
  refine harmless_append hu hv fun a m ha hm => ?_
  rw [endsStyle, h a m ha hm]

/-! ## Plain pieces -/

/-- Neither brackets nor backslashes. -/
def isPlain (t : Text) : Bool := t.all fun c => !isBracket c && !isBackslash c

theorem isPlain_append {u v : Text} : isPlain (u ++ v) = (isPlain u && isPlain v) := List.all_append

theorem isPlain_cons {c : CodePoint} {t : Text} (h : isPlain (c :: t) = true) :
    isBracket c = false ∧ isBackslash c = false ∧ isPlain t = true := by
  simpa [isPlain, Bool.and_eq_true, and_assoc] using h

theorem isPlain_ofNat (n : Nat) : isPlain (Text.ofNat n) = true := by
  refine List.all_eq_true.2 fun c hc => ?_
  have hdigit := Text.isDecimalDigit_of_mem_ofNat n c hc
  have hbracket : isBracket c = false := by
    rw [← Bool.not_eq_true]
    intro h
    rcases Bool.or_eq_true_iff.1 h with h | h <;> rw [of_decide_eq_true h] at hdigit <;> cases hdigit
  have hslash : isBackslash c = false := by
    rw [← Bool.not_eq_true]
    intro h
    rw [of_decide_eq_true h] at hdigit
    cases hdigit
  rw [hbracket, hslash]
  rfl

theorem harmless_plain_append {u : Text} (hu : isPlain u = true) (v : Text) :
    harmless false (u ++ v) = harmless false v := by
  induction u with
  | nil => rfl
  | cons c u ih =>
    obtain ⟨hbracket, hslash, hu⟩ := isPlain_cons hu
    have hskip : ∀ d ∈ [c], d ≠ '[' := by
      intro d hd
      rw [List.mem_singleton.1 hd]
      rintro rfl
      cases hbracket
    rw [List.cons_append, ← List.singleton_append, harmless_skip hskip, ← ih hu]
    simp [oddAfter, hslash]

theorem isBracket_of_isPlain {t : Text} (h : isPlain t = true) : ∀ c ∈ t, isBracket c = false := by
  intro c hc
  have hplain := List.all_eq_true.1 h c hc
  rw [Bool.and_eq_true, Bool.not_eq_true'] at hplain
  exact hplain.1

theorem harmless_of_isPlain {t : Text} (h : isPlain t = true) (odd : Bool) :
    harmless odd t = true := by
  have hopening : ∀ c ∈ t, c ≠ '[' := by
    rintro c hc rfl
    cases isBracket_of_isPlain h _ hc
  have hskip := harmless_skip hopening odd []
  rw [List.append_nil] at hskip
  rw [hskip]
  rfl

theorem harmless_append_plain {t v : Text} (ht : harmless false t = true) (hv : isPlain v = true) :
    harmless false (t ++ v) = true := by
  have hapart : Apart t v :=
    apart_of_find?_ne t (by simp [find?_isBracket_eq_none (isBracket_of_isPlain hv)])
  exact harmless_append_of_apart ht (harmless_of_isPlain hv _) hapart

/-! ## Stand-ins -/

/-- What can be put in place of a code point of a harmless text. -/
structure IsStandIn (c : CodePoint) (r : Text) : Prop where
  isBracket_eq : isBracket c = false
  isBackslash_eq : isBackslash c = false
  head_ne : ∀ t, (r ++ t).head? ≠ some (CodePoint.ofChar '/')
  first_ne : r.find? isBracket ≠ some (CodePoint.ofChar ']')
  last_ne : r.reverse.find? isBracket ≠ some (CodePoint.ofChar '[')
  harmless_eq : ∀ odd, harmless odd r = true
  oddAfter_eq : ∀ odd, oddAfter odd r = false

theorem isStandIn_of_mem {icon : CodePoint × Text} (h : icon ∈ Terminal.icons) :
    IsStandIn icon.1 icon.2 := by
  simp only [Terminal.icons, List.mem_cons, List.not_mem_nil, or_false] at h
  rcases h with rfl | rfl | rfl
  all_goals
    refine ⟨by decide, by decide, fun t => ?_, by decide, by decide, ?_, ?_⟩
    · exact fun h => by cases h
    · intro odd; cases odd <;> decide
    · intro odd; cases odd <;> decide

theorem substitute_cons (c : CodePoint) (t : Text) (g : CodePoint) (r : Text) :
    Text.substitute (c :: t) g r = (if c = g then r else [c]) ++ Text.substitute t g r :=
  List.flatMap_cons

namespace IsStandIn

variable {g : CodePoint} {r t : Text}

theorem find?_substitute (hs : IsStandIn g r)
    (h : (t.substitute g r).find? isBracket = some (CodePoint.ofChar ']')) :
    t.find? isBracket = some (CodePoint.ofChar ']') := by
  induction t with
  | nil => cases h
  | cons c t ih =>
    rw [substitute_cons, List.find?_append] at h
    split at h
    · rename_i hc
      subst hc
      rw [List.find?_cons, hs.isBracket_eq]
      refine ih ?_
      cases hr : r.find? isBracket with
      | none => rwa [hr] at h
      | some d =>
        rw [hr] at h
        exact absurd (hr.trans h) hs.first_ne
    · rw [List.find?_cons] at h ⊢
      cases hc : isBracket c with
      | true =>
        rw [hc] at h
        exact h
      | false =>
        rw [hc] at h
        exact ih h

theorem head?_substitute (hs : IsStandIn g r)
    (h : (t.substitute g r).head? = some (CodePoint.ofChar '/')) :
    t.head? = some (CodePoint.ofChar '/') := by
  cases t with
  | nil => cases h
  | cons c t =>
    rw [substitute_cons] at h
    split at h
    · exact absurd h (hs.head_ne _)
    · exact h

theorem harmless_substitute (hs : IsStandIn g r) {odd : Bool} (h : harmless odd t = true) :
    harmless odd (t.substitute g r) = true := by
  induction t generalizing odd with
  | nil => rfl
  | cons c t ih =>
    rw [harmless, Bool.and_eq_true] at h
    have hrest := ih h.2
    rw [substitute_cons]
    split
    · rename_i hc
      subst hc
      refine harmless_append_of_apart (hs.harmless_eq odd) ?_ (apart_of_find?_reverse_ne _ hs.last_ne)
      rw [hs.isBackslash_eq, Bool.false_and] at hrest
      rw [hs.oddAfter_eq]
      exact hrest
    · -- A tag that ends a style here ended it before the glyphs were replaced.
      have hends : endsStyle (c :: Text.substitute t g r) = true → endsStyle (c :: t) = true := by
        intro he
        obtain ⟨rfl, hhead, hfind⟩ := endsStyle_iff.1 he
        exact endsStyle_iff.2 ⟨rfl, hs.head?_substitute hhead, hs.find?_substitute hfind⟩
      rw [List.singleton_append, harmless, Bool.and_eq_true]
      refine ⟨?_, hrest⟩
      cases he : endsStyle (c :: Text.substitute t g r) with
      | false => rw [Bool.not_false, Bool.or_true]
      | true =>
        have hodd := h.1
        rw [hends he, Bool.not_true, Bool.or_false] at hodd
        rw [hodd, Bool.true_or]

end IsStandIn

theorem harmless_replaceIcons {t : Text} (h : harmless false t = true) :
    harmless false (Terminal.replaceIcons t) = true := by
  have hfold : ∀ icons : List (CodePoint × Text), (∀ icon ∈ icons, IsStandIn icon.1 icon.2) →
      ∀ t, harmless false t = true →
        harmless false (icons.foldl (fun t icon => t.substitute icon.1 icon.2) t) = true := by
    intro icons
    induction icons with
    | nil => exact fun _ t ht => ht
    | cons icon icons ih =>
      intro hicons t ht
      exact ih (fun i hi => hicons i (List.mem_cons_of_mem _ hi)) _
        ((hicons icon List.mem_cons_self).harmless_substitute ht)
  exact hfold _ (fun icon => isStandIn_of_mem) t h

theorem replaceIcons_append (u v : Text) :
    Terminal.replaceIcons (u ++ v) = Terminal.replaceIcons u ++ Terminal.replaceIcons v := by
  simp only [Terminal.replaceIcons, Terminal.icons, List.foldl_cons, List.foldl_nil, Text.substitute,
    List.flatMap_append]

/-! ## Messages -/

/-- Stand-ins for glyphs change no style. -/
theorem Message.replaceIcons {t : Text} (h : Message t) : Message (Terminal.replaceIcons t) := by
  induction h with
  | harmless h => exact .harmless (harmless_replaceIcons h)
  | @styled gap style t v hgap hstyle ht hv ih =>
    have hgaps : ∀ gap ∈ gaps, Terminal.replaceIcons gap = gap := by decide
    have hopen : ∀ style ∈ styleNames, Terminal.replaceIcons (bracketed (Text.of style)) =
        bracketed (Text.of style) := by decide
    have hclose : ∀ style ∈ styleNames,
        Terminal.replaceIcons (bracketed (Text.of "/" ++ Text.of style)) =
          bracketed (Text.of "/" ++ Text.of style) := by decide
    have hshape : Terminal.replaceIcons (gap ++ Markup.styled style t ++ v) =
        gap ++ Markup.styled style (Terminal.replaceIcons t) ++ Terminal.replaceIcons v := by
      simp only [Markup.styled, replaceIcons_append, hgaps gap hgap, hopen style hstyle,
        hclose style hstyle]
    rw [hshape]
    exact .styled gap style hgap hstyle (harmless_replaceIcons ht) ih

end LispXref.Markup
