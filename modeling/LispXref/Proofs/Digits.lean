-- Numbers written in a base. Main statement: the digits of a number spell the number
-- again, and a number below a power of the base has no more digits than the power says.
import LispXref.Proofs.Numeral
import Mathlib.Data.List.Induction

namespace LispXref

/-! ## Digits -/

theorem CodePoint.digitValue?_ofDigit {d : Nat} (h : d < 36) : (ofDigit d).digitValue? = some d := by
  have hall : ∀ d < 36, (ofDigit d).digitValue? = some d := by decide
  exact hall d h

theorem CodePoint.isDigitOf_ofDigit {base d : Nat} (hb : base ≤ 36) (h : d < base) :
    (ofDigit d).isDigitOf base = true := by
  unfold isDigitOf
  rw [digitValue?_ofDigit (Nat.lt_of_lt_of_le h hb)]
  exact decide_eq_true h

theorem CodePoint.digitValue?_getD_lt {base : Nat} {c : CodePoint} (h : c.isDigitOf base = true) :
    c.digitValue?.getD 0 < base := by
  unfold isDigitOf at h
  split at h
  · rename_i d hd
    rw [hd]
    exact of_decide_eq_true h
  · cases h

/-- In base 10 the digits are the ten decimal ones. -/
theorem CodePoint.isDecimalDigit_of_isDigitOf {c : CodePoint} (h : c.isDigitOf 10 = true) :
    c.isDecimalDigit = true := by
  rw [isDigitOf_iff] at h
  rw [isDecimalDigit_iff]
  omega

namespace Text

/-! ## Numbers -/

section Base

variable {base : Nat}

theorem digitsValue_append (digits : Text) (c : CodePoint) :
    digitsValue base (digits ++ [c]) = digitsValue base digits * base + c.digitValue?.getD 0 := by
  simp [digitsValue, List.foldl_append]

theorem digitsValue_lt {digits : Text} (h : ∀ c ∈ digits, c.isDigitOf base = true) :
    digitsValue base digits < Nat.pow base digits.length := by
  induction digits using List.reverseRecOn with
  | nil => exact Nat.one_pos
  | append_singleton digits c ih =>
    have hn := ih fun d hd => h d (List.mem_append_left _ hd)
    have hd := CodePoint.digitValue?_getD_lt (h c (by simp))
    have hmul := Nat.mul_le_mul_right base (Nat.succ_le_of_lt hn)
    rw [digitsValue_append, List.length_append, List.length_singleton]
    show _ < Nat.pow base digits.length * base
    rw [Nat.succ_mul] at hmul
    omega

theorem ofNatBase_ne_nil (n : Nat) : ofNatBase base n ≠ [] := by
  unfold ofNatBase
  split <;> simp

/-- The digits of a number spell it. -/
theorem digitsValue_ofNatBase (hb : 2 ≤ base) (hle : base ≤ 36) (n : Nat) :
    digitsValue base (ofNatBase base n) = n := by
  fun_induction ofNatBase base n with
  | case1 n h ih =>
    have hlt : n % base < 36 := by
      have := Nat.mod_lt n (show 0 < base by omega)
      omega
    rw [digitsValue_append, ih, CodePoint.digitValue?_ofDigit hlt]
    exact Nat.div_add_mod' n base
  | case2 n h =>
    have hlt : n < 36 := by omega
    simp [digitsValue, CodePoint.digitValue?_ofDigit hlt]

theorem isDigitOf_of_mem_ofNatBase (hb : 2 ≤ base) (hle : base ≤ 36) (n : Nat) :
    ∀ c ∈ ofNatBase base n, c.isDigitOf base = true := by
  fun_induction ofNatBase base n with
  | case1 n h ih =>
    intro c hc
    rw [List.mem_append, List.mem_singleton] at hc
    rcases hc with hc | rfl
    · exact ih c hc
    · exact CodePoint.isDigitOf_ofDigit hle (Nat.mod_lt n (by omega))
  | case2 n h =>
    intro c hc
    cases List.mem_singleton.1 hc
    exact CodePoint.isDigitOf_ofDigit hle (by omega)

theorem length_ofNatBase_le (hb : 2 ≤ base) {k n : Nat} (hk : 0 < k) (h : n < Nat.pow base k) :
    (ofNatBase base n).length ≤ k := by
  fun_induction ofNatBase base n generalizing k with
  | case1 n hn ih =>
    cases k with
    | zero => omega
    | succ k =>
      -- A number of at least the base has more than one digit to spare.
      have hpos : 0 < k := by
        rcases Nat.eq_zero_or_pos k with rfl | hpos
        · have hone : n < 1 * base := h
          omega
        · exact hpos
      have hdiv : n / base < Nat.pow base k := by
        rw [Nat.div_lt_iff_lt_mul (by omega)]
        exact h
      have := ih hpos hdiv
      rw [List.length_append, List.length_singleton]
      omega
  | case2 n hn => exact hk

end Base

theorem ofNat_ne_nil (n : Nat) : ofNat n ≠ [] := ofNatBase_ne_nil n

theorem isDecimalDigit_of_mem_ofNat (n : Nat) : ∀ c ∈ ofNat n, c.isDecimalDigit = true := by
  intro c hc
  have hdigit := isDigitOf_of_mem_ofNatBase (by decide : 2 ≤ 10) (by decide : 10 ≤ 36) n c hc
  exact CodePoint.isDecimalDigit_of_isDigitOf hdigit

theorem digitsValue_ofNat (n : Nat) : digitsValue 10 (ofNat n) = n :=
  digitsValue_ofNatBase (by decide) (by decide) n

theorem length_ofNat_le {n k : Nat} (hk : 0 < k) (h : n < Nat.pow 10 k) : (ofNat n).length ≤ k :=
  length_ofNatBase_le (by decide) hk h

end Text

/-! ## Numerals -/

namespace Numeral

/-- Where digits are counted, a number that is read has no more of them than the limit. -/
theorem magnitude_lt {base n : Nat} {t : Text} (hb : 0 < base) (hp : isPowerOfTwo base = false)
    (h : magnitude base t = .ok n) : n < Nat.pow base digitLimit := by
  unfold magnitude at h
  dsimp only at h
  generalize hdigits : ((t.takeWhile fun c => c.isDigitOf base || isUnderscore c).filter
    fun c => !isUnderscore c) = digits at h
  have hall : ∀ c ∈ digits, c.isDigitOf base = true := by
    intro c hc
    rw [← hdigits, List.mem_filter, Bool.not_eq_true'] at hc
    have hrun := List.all_eq_true.1 List.all_takeWhile c hc.1
    rw [hc.2, Bool.or_false] at hrun
    exact hrun
  split at h
  · cases h
  · split at h
    · cases h
    · rename_i hlimit
      split at h
      · cases h
      · cases h
        have hlen : digits.length ≤ digitLimit := by simpa [hp] using hlimit
        exact Nat.lt_of_lt_of_le (Text.digitsValue_lt hall) (Nat.pow_le_pow_right hb hlen)

theorem natAbs_lt_of_parse {t : Text} {n : Int} (h : parse 10 t = .ok n) :
    n.natAbs < Nat.pow 10 digitLimit := by
  unfold parse at h
  dsimp only at h
  split at h
  · rename_i m hm
    cases h
    have hsign : (if (splitSign ((t.map toAscii).dropWhile isMargin)).1 = true then -(m : Int)
        else m).natAbs = m := by split <;> simp
    rw [hsign]
    exact magnitude_lt (by decide) (by decide) hm
  · cases h

end Numeral

end LispXref
