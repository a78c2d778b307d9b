-- Which texts are numerals. Main statement: a run of decimal digits, of whatever
-- scripts, is a numeral in base 10 unless it has too many digits. A run of digits that
-- is no numeral is none with more digits behind it either.
import LispXref.Proofs.Seam.Basic
import Mathlib.Data.List.TakeWhile

namespace LispXref

/-! ## Digits -/

theorem CodePoint.isDecimalDigit_iff {c : CodePoint} :
    c.isDecimalDigit = true ↔ 48 ≤ c.val ∧ c.val ≤ 57 := by
  unfold isDecimalDigit between
  simp only [decide_eq_true_eq, Char.reduceToNat]

theorem CodePoint.isDigit_of_isDecimalDigit {c : CodePoint} (h : c.isDecimalDigit = true) :
    c.isDigit = true := by
  have hv := isDecimalDigit_iff.1 h
  have hzero : 0x30 ≤ c.val ∧ c.val < 0x30 + 10 := by omega
  unfold isDigit decimalValue? scriptZeros
  rw [List.find?_cons_of_pos (by simpa using hzero)]
  rfl

/-- The digits of a base are decimal digits and letters, as far as the base goes. -/
theorem CodePoint.isDigitOf_iff {base : Nat} {c : CodePoint} :
    c.isDigitOf base = true ↔ 48 ≤ c.val ∧ c.val ≤ 57 ∧ c.val < 48 + base ∨
      97 ≤ c.val ∧ c.val ≤ 122 ∧ c.val < 87 + base ∨
      65 ≤ c.val ∧ c.val ≤ 90 ∧ c.val < 55 + base := by
  unfold isDigitOf digitValue? between
  simp only [decide_eq_true_eq, Char.reduceToNat]
  split
  · rename_i d hd
    rw [decide_eq_true_eq]
    split at hd
    · cases hd
      omega
    · split at hd
      · cases hd
        omega
      · split at hd
        · cases hd
          omega
        · cases hd
  · rename_i hd
    split at hd
    · cases hd
    · split at hd
      · cases hd
      · split at hd
        · cases hd
        · simp only [Bool.false_eq_true, false_iff]
          omega

theorem CodePoint.isDigitOf_of_isDecimalDigit {c : CodePoint} (h : c.isDecimalDigit = true) :
    c.isDigitOf 10 = true := by
  have hv := isDecimalDigit_iff.1 h
  exact isDigitOf_iff.2 (.inl ⟨hv.1, hv.2, by omega⟩)

theorem CodePoint.val_lowerAscii (c : CodePoint) :
    c.lowerAscii.val = if 65 ≤ c.val ∧ c.val ≤ 90 then c.val + 32 else c.val := by
  have hletters : ∀ n < 128, (ofChar (Char.ofNat n)).val = n := by decide
  unfold lowerAscii between
  simp only [Char.reduceToNat, decide_eq_true_eq]
  split
  · rename_i h
    exact hletters _ (by omega)
  · rfl

/-- The code points whose lower case is a given letter: the letter in either case. -/
theorem CodePoint.lowerAscii_eq_iff {c : CodePoint} {d : Char} (hd : 97 ≤ d.toNat ∧ d.toNat ≤ 122) :
    c.lowerAscii = d ↔ c.val = d.toNat ∨ c.val + 32 = d.toNat := by
  rw [eq_ofChar_iff, val_lowerAscii]
  split <;> omega

theorem CodePoint.exists_zero_of_decimalValue? {c : CodePoint} {d : Nat}
    (h : c.decimalValue? = some d) : d < 10 ∧ ∃ z ∈ scriptZeros, c.val = z + d := by
  unfold decimalValue? at h
  obtain ⟨z, hz, rfl⟩ := Option.map_eq_some_iff.1 h
  have hr := List.find?_some hz
  simp only [decide_eq_true_eq] at hr
  exact ⟨by omega, z, List.mem_of_find?_eq_some hz, by omega⟩

/-- A decimal digit of any script has the ASCII digit of its value. -/
theorem Numeral.toAscii_of_decimalValue? {c : CodePoint} {d : Nat} (h : c.decimalValue? = some d) :
    (toAscii c).val = 48 + d := by
  have hzeros : ∀ z ∈ scriptZeros, z = 48 ∨ 127 ≤ z := by decide
  have hspaces : ∀ z ∈ scriptZeros, ∀ r ∈ spaceRanges, z + 10 ≤ r.1 ∨ r.2 < z := by decide
  have hdigits : ∀ d < 10, (CodePoint.ofDigit d).val = 48 + d := by decide
  obtain ⟨hd, z, hz, hv⟩ := CodePoint.exists_zero_of_decimalValue? h
  unfold toAscii
  by_cases hascii : c.val < 127
  · rw [if_pos hascii]
    have := hzeros z hz
    omega
  · have hspace : c.isSpace = false := by
      unfold CodePoint.isSpace inRanges
      rw [List.any_eq_false]
      intro r hr hin
      have := hspaces z hz r hr
      simp only [decide_eq_true_eq] at hin
      omega
    simp only [hascii, hspace, h, if_false, Bool.false_eq_true]
    exact hdigits d hd

/-! ## Signs -/

namespace Numeral

/-- A sign or none, and whether it is a minus. -/
inductive SignSpelling : Text → Bool → Prop
  | none : SignSpelling [] false
  | plus : SignSpelling (Text.of "+") false
  | minus : SignSpelling (Text.of "-") true

/-- A sign is taken off what begins with no sign. -/
theorem SignSpelling.splitSign {sign t : Text} {negative : Bool} (h : SignSpelling sign negative)
    (ht : ∀ c ∈ t.head?, c ≠ '-' ∧ c ≠ '+') : splitSign (sign ++ t) = (negative, t) := by
  cases h with
  | none =>
    cases t with
    | nil => rfl
    | cons c t =>
      obtain ⟨hminus, hplus⟩ := ht c rfl
      rw [List.nil_append, Numeral.splitSign, if_neg hminus, if_neg hplus]
  | plus => rfl
  | minus => rfl

theorem SignSpelling.eq_of_mem {sign : Text} {negative : Bool} {c : CodePoint}
    (h : SignSpelling sign negative) (hc : c ∈ sign) : c = '-' ∨ c = '+' := by
  cases h with
  | none => cases hc
  | plus => exact .inr (List.mem_singleton.1 hc)
  | minus => exact .inl (List.mem_singleton.1 hc)

theorem exists_signSpelling (t : Text) :
    ∃ sign, SignSpelling sign (splitSign t).1 ∧ t = sign ++ (splitSign t).2 := by
  unfold splitSign
  split
  · split
    · rename_i hc
      exact ⟨_, .minus, by rw [hc]; rfl⟩
    · split
      · rename_i hc
        exact ⟨_, .plus, by rw [hc]; rfl⟩
      · exact ⟨[], .none, rfl⟩
  · exact ⟨[], .none, rfl⟩

theorem ne_sign_of_isDigitOf {base : Nat} {c : CodePoint} (h : c.isDigitOf base = true) :
    c ≠ '-' ∧ c ≠ '+' := by
  have hc := CodePoint.isDigitOf_iff.1 h
  simp only [Ne, CodePoint.eq_ofChar_iff, Char.reduceToNat]
  omega

/-! ## Numerals -/

theorem isUnderscore_of_isDigitOf {base : Nat} {c : CodePoint} (h : c.isDigitOf base = true) :
    isUnderscore c = false := by
  have hr := CodePoint.isDigitOf_iff.1 h
  unfold isUnderscore
  rw [decide_eq_false_iff_not, CodePoint.eq_ofChar_iff]
  simp only [Char.reduceToNat]
  omega

theorem underscoresSingle_of_none {t : Text} (h : ∀ c ∈ t, isUnderscore c = false) :
    underscoresSingle t = true := by
  fun_induction underscoresSingle t with
  | case1 => rfl
  | case2 c => simp [h c (by simp)]
  | case3 c d rest ih =>
    rw [ih fun e he => h e (List.mem_cons_of_mem _ he), h c List.mem_cons_self]
    rfl

theorem isMargin_eq_false {c : CodePoint} (h : 48 ≤ c.val) : isMargin c = false := by
  unfold isMargin CodePoint.between
  simp only [CodePoint.eq_ofChar_iff, Char.reduceToNat, Bool.or_eq_false_iff,
    decide_eq_false_iff_not]
  omega

/-- What digits alone come to: a number, if there are not too many of them. -/
theorem magnitude_eq_of_digits {base : Nat} {t : Text} (hne : t ≠ [])
    (ht : ∀ c ∈ t, c.isDigitOf base = true) :
    magnitude base t = if !isPowerOfTwo base && decide (digitLimit < t.length) then
      .error (.tooManyDigits t.length) else .ok (Text.digitsValue base t) := by
  have hnone : ∀ c ∈ t, isUnderscore c = false := fun c hc => isUnderscore_of_isDigitOf (ht c hc)
  have hrun : (t.takeWhile fun c => c.isDigitOf base || isUnderscore c) = t := by
    rw [List.takeWhile_eq_self_iff]
    intro c hc
    rw [ht c hc, Bool.true_or]
  have hdigits : (t.filter fun c => !isUnderscore c) = t := by
    rw [List.filter_eq_self]
    intro c hc
    rw [hnone c hc]
    rfl
  have hhead : t.head?.any isUnderscore = false := by
    cases t with
    | nil => rfl
    | cons c rest => exact hnone c List.mem_cons_self
  unfold magnitude
  simp only [hrun, hdigits, hhead, underscoresSingle_of_none hnone, List.drop_length,
    List.isEmpty_eq_false_iff.2 hne]
  rfl

/-- Digits alone spell a number, if there are not too many of them. -/
theorem magnitude_of_digits {base : Nat} {t : Text} (hne : t ≠ [])
    (ht : ∀ c ∈ t, c.isDigitOf base = true)
    (hl : isPowerOfTwo base = true ∨ t.length ≤ digitLimit) :
    magnitude base t = .ok (Text.digitsValue base t) := by
  rw [magnitude_eq_of_digits hne ht, if_neg]
  rcases hl with hl | hl
  · simp [hl]
  · simp [Nat.not_lt.2 hl]

/-- In base 10, what has no sign and no white space is a numeral if it spells a number. -/
theorem parse_ten {t : Text} (hne : t ≠ [])
    (ht : ∀ c ∈ t, 48 ≤ (toAscii c).val ∧ (toAscii c).val ≤ 63) :
    parse 10 t = (magnitude 10 (t.map toAscii)).map Int.ofNat := by
  have hascii : ∀ c ∈ t.map toAscii, 48 ≤ c.val ∧ c.val ≤ 63 := by
    intro c hc
    obtain ⟨b, hb, rfl⟩ := List.mem_map.1 hc
    exact ht b hb
  have hne' : t.map toAscii ≠ [] := by rwa [Ne, List.map_eq_nil_iff]
  unfold parse
  generalize t.map toAscii = u at *
  -- The first character is neither white space nor a sign, and base 10 has no mark.
  obtain ⟨c, rest, rfl⟩ := List.exists_cons_of_ne_nil hne'
  have hc := hascii c List.mem_cons_self
  have hmargin : isMargin c = false := isMargin_eq_false hc.1
  have hsign : splitSign (c :: rest) = (false, c :: rest) := by
    unfold splitSign
    simp only [CodePoint.eq_ofChar_iff, Char.reduceToNat]
    rw [if_neg (by omega), if_neg (by omega)]
  have hmark : dropMark 10 (c :: rest) = c :: rest := by
    cases rest <;> simp [dropMark, marksBase]
  rw [List.dropWhile_cons_of_neg (by simp [hmargin])]
  simp only [hsign, hmark]
  cases magnitude 10 (c :: rest) <;> rfl

/-- Decimal digits of any script are a numeral, if there are not too many of them. -/
theorem parse_of_decimalDigits {t : Text} (hne : t ≠ [])
    (ht : ∀ c ∈ t, c.decimalValue?.isSome = true) (hl : t.length ≤ digitLimit) :
    parse 10 t = .ok (Text.digitsValue 10 (t.map toAscii)) := by
  have hascii : ∀ c ∈ t, 48 ≤ (toAscii c).val ∧ (toAscii c).val ≤ 57 := by
    intro c hc
    obtain ⟨d, hd⟩ := Option.isSome_iff_exists.1 (ht c hc)
    have hlt := (CodePoint.exists_zero_of_decimalValue? hd).1
    rw [toAscii_of_decimalValue? hd]
    omega
  have hlen : (t.map toAscii).length ≤ digitLimit := by rwa [List.length_map]
  have hne' : t.map toAscii ≠ [] := by rwa [Ne, List.map_eq_nil_iff]
  have hdigits : ∀ c ∈ t.map toAscii, c.isDigitOf 10 = true := by
    intro c hc
    obtain ⟨b, hb, rfl⟩ := List.mem_map.1 hc
    exact CodePoint.isDigitOf_of_isDecimalDigit (CodePoint.isDecimalDigit_iff.2 (hascii b hb))
  rw [parse_ten hne fun c hc => ⟨(hascii c hc).1, by have := (hascii c hc).2; omega⟩,
    magnitude_of_digits hne' hdigits (.inr hlen)]
  rfl

/-! ## Numerals that go on -/

/-- Without underscores and white space, only digits spell a number. -/
theorem digits_of_magnitude {base n : Nat} {t : Text} (h : magnitude base t = .ok n)
    (hmargin : ∀ c ∈ t, isMargin c = false) (hnone : ∀ c ∈ t, isUnderscore c = false) :
    (∀ c ∈ t, c.isDigitOf base = true) ∧ (isPowerOfTwo base = true ∨ t.length ≤ digitLimit) := by
  unfold magnitude at h
  dsimp only at h
  generalize hr : (t.takeWhile fun c => c.isDigitOf base || isUnderscore c) = run at h
  have hall : ∀ c ∈ run, (c.isDigitOf base || isUnderscore c) = true := by
    subst hr
    exact fun c hc => List.all_eq_true.1 List.all_takeWhile c hc
  have hsplit : t = run ++ t.drop run.length := by
    subst hr
    exact (List.prefix_iff_eq_append.1 (List.takeWhile_prefix _)).symm
  split at h
  · cases h
  · split at h
    · cases h
    · rename_i hlimit
      split at h
      · cases h
      · rename_i hrest
        simp only [Bool.or_eq_true, Bool.not_eq_true', not_or, Bool.not_eq_true,
          Bool.not_eq_false, List.all_eq_true] at hrest
        -- What follows the run is white space, and there is none.
        have hend : t.drop run.length = [] := by
          rw [List.eq_nil_iff_forall_not_mem]
          intro c hc
          have := hmargin c (List.mem_of_mem_drop hc)
          rw [hrest.2 c hc] at this
          cases this
        rw [hend, List.append_nil] at hsplit
        subst hsplit
        have hdigits : (t.filter fun c => !isUnderscore c) = t := by
          rw [List.filter_eq_self]
          intro c hc
          rw [hnone c hc]
          rfl
        rw [hdigits] at hlimit
        refine ⟨fun c hc => ?_, ?_⟩
        · have := hall c hc
          rw [hnone c hc, Bool.or_false] at this
          exact this
        · simp only [Bool.and_eq_true, Bool.not_eq_true', decide_eq_true_eq, not_and,
            Bool.eq_false_iff, Nat.not_lt] at hlimit
          by_cases hp : isPowerOfTwo base = true
          · exact .inl hp
          · exact .inr (hlimit hp)

/-- A digit that is not decimal is no digit of a numeral. -/
theorem toAscii_of_decimalValue?_eq_none {c : CodePoint} (h : c.isDigit = true)
    (hd : c.decimalValue? = none) : toAscii c = CodePoint.ofChar '?' := by
  have hranges : ∀ r ∈ specialDigitRanges, 127 ≤ r.1 ∧ ∀ q ∈ spaceRanges, r.2 < q.1 ∨ q.2 < r.1 := by
    decide
  unfold CodePoint.isDigit inRanges at h
  rw [hd, Option.isSome_none, Bool.false_or, List.any_eq_true] at h
  obtain ⟨r, hr, hin⟩ := h
  simp only [decide_eq_true_eq] at hin
  obtain ⟨hlow, hspaces⟩ := hranges r hr
  have hspace : c.isSpace = false := by
    unfold CodePoint.isSpace inRanges
    rw [List.any_eq_false]
    intro q hq hinq
    have := hspaces q hq
    simp only [decide_eq_true_eq] at hinq
    omega
  unfold toAscii
  simp only [show ¬c.val < 127 by omega, hspace, hd, if_false, Bool.false_eq_true]

/-- Of digits in the wider sense, only decimal digits are a numeral, and not too many. -/
theorem decimalDigits_of_parse {t : Text} {n : Int} (h : parse 10 t = .ok n) (hne : t ≠ [])
    (ht : ∀ c ∈ t, c.isDigit = true) :
    (∀ c ∈ t, c.decimalValue?.isSome = true) ∧ t.length ≤ digitLimit := by
  have hascii : ∀ c ∈ t, 48 ≤ (toAscii c).val ∧ (toAscii c).val ≤ 63 := by
    intro c hc
    cases hd : c.decimalValue? with
    | none =>
      rw [toAscii_of_decimalValue?_eq_none (ht c hc) hd]
      decide
    | some d =>
      have hlt := (CodePoint.exists_zero_of_decimalValue? hd).1
      rw [toAscii_of_decimalValue? hd]
      omega
  rw [parse_ten hne hascii] at h
  cases hm : magnitude 10 (t.map toAscii) with
  | error e =>
    rw [hm] at h
    cases h
  | ok m =>
    have hmargin : ∀ c ∈ t.map toAscii, isMargin c = false := by
      intro c hc
      obtain ⟨b, hb, rfl⟩ := List.mem_map.1 hc
      exact isMargin_eq_false (hascii b hb).1
    have hnone : ∀ c ∈ t.map toAscii, isUnderscore c = false := by
      intro c hc
      obtain ⟨b, hb, rfl⟩ := List.mem_map.1 hc
      have := (hascii b hb).2
      unfold isUnderscore
      rw [decide_eq_false_iff_not, CodePoint.eq_ofChar_iff]
      simp only [Char.reduceToNat]
      omega
    obtain ⟨hdigits, hlimit⟩ := digits_of_magnitude hm hmargin hnone
    constructor
    · intro c hc
      cases hd : c.decimalValue? with
      | none =>
        have := hdigits _ (List.mem_map_of_mem hc)
        rw [toAscii_of_decimalValue?_eq_none (ht c hc) hd] at this
        cases this
      | some d => rfl
    · rcases hlimit with hp | hl
      · cases hp
      · rwa [List.length_map] at hl

/-- Digits that are no numeral are none with more digits after them. -/
theorem parse_append_digits {t u : Text} {e : Error} (h : parse 10 t = .error e) (hne : t ≠ [])
    (htu : ∀ c ∈ t ++ u, c.isDigit = true) : ∃ e', parse 10 (t ++ u) = .error e' := by
  cases hp : parse 10 (t ++ u) with
  | error e' => exact ⟨e', rfl⟩
  | ok n =>
    obtain ⟨hdecimal, hlen⟩ :=
      decimalDigits_of_parse hp (List.append_ne_nil_of_left_ne_nil hne u) htu
    have hok := parse_of_decimalDigits hne (fun c hc => hdecimal c (List.mem_append_left u hc))
      (by rw [List.length_append] at hlen; omega)
    rw [hok] at h
    cases h

end Numeral

end LispXref
