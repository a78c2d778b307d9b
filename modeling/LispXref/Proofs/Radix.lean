-- Integers of a radix. Main statement: the digits of an integer in any base from 2 to 36,
-- behind the mark of the base and a sign, are read as the integer, in letters of either case
-- and with any number of zeros in front. Only in a base that is no power of two can there be
-- too many of them.
import LispXref.Proofs.Printing
import LispXref.Reading.SomeNames
import Mathlib.Data.Nat.Digits.Defs

namespace LispXref

namespace Numeral

/-! ## Digits of a base -/

/-- The digits of the largest base, from zero on. -/
def digitCharacters : List Char := "0123456789abcdefghijklmnopqrstuvwxyz".toList

/-- A digit is written as its character, a letter in either case. -/
def WritesDigit (c : CodePoint) (d : Nat) : Prop :=
  ∃ ch, digitCharacters[d]? = some ch ∧ (c = ch ∨ c = ch.toUpper)

/-- The digits of a number in a base, the most significant one first, with any number of
zeros in front. There is at least one digit. -/
def Writes (base : Nat) (digits : Text) (n : Nat) : Prop :=
  digits ≠ [] ∧ ∃ zeros,
    List.Forall₂ WritesDigit digits (List.replicate zeros 0 ++ (Nat.digits base n).reverse)

/-- The sign of an integer: a minus if it is negative, and else a plus or nothing. -/
def IsSign (z : Int) (sign : Text) : Prop :=
  if z < 0 then sign = Text.of "-" else sign = [] ∨ sign = Text.of "+"

theorem WritesDigit.digitValue?_eq {c : CodePoint} {d : Nat} (h : WritesDigit c d) :
    c.digitValue? = some d := by
  have hall : ∀ p ∈ digitCharacters.zipIdx, (CodePoint.ofChar p.1).digitValue? = some p.2 ∧
      (CodePoint.ofChar p.1.toUpper).digitValue? = some p.2 := by decide
  obtain ⟨ch, hch, hc⟩ := h
  obtain ⟨hlower, hupper⟩ := hall (ch, d) (List.mem_zipIdx_iff_getElem?.2 hch)
  rcases hc with rfl | rfl
  · exact hlower
  · exact hupper

/-- Reading digits is Horner's rule. -/
theorem digitsValue_eq_ofDigits (base : Nat) {digits : Text} {ds : List Nat}
    (h : List.Forall₂ WritesDigit digits ds) :
    Text.digitsValue base digits = Nat.ofDigits base ds.reverse := by
  have hfold : ∀ n, digits.foldl (fun n c => n * base + c.digitValue?.getD 0) n =
      ds.foldl (fun n d => n * base + d) n := by
    induction h with
    | nil => exact fun _ => rfl
    | cons hc _ ih =>
      intro n
      rw [List.foldl_cons, List.foldl_cons, ih, hc.digitValue?_eq]
      rfl
  rw [Nat.ofDigits_eq_foldr, List.foldr_reverse, Text.digitsValue, hfold]
  refine congrArg (fun f => ds.foldl f 0) ?_
  funext n d
  rw [Nat.mul_comm, Nat.add_comm]
  rfl

theorem isDigitOf_of_writesDigit {base : Nat} {digits : Text} {ds : List Nat}
    (h : List.Forall₂ WritesDigit digits ds) (hlt : ∀ d ∈ ds, d < base) :
    ∀ c ∈ digits, c.isDigitOf base = true := by
  induction h with
  | nil => exact nofun
  | @cons c d digits ds hc _ ih =>
    intro b hb
    rcases List.mem_cons.1 hb with rfl | hb
    · unfold CodePoint.isDigitOf
      rw [hc.digitValue?_eq]
      exact decide_eq_true (hlt d List.mem_cons_self)
    · exact ih (fun e he => hlt e (List.mem_cons_of_mem d he)) b hb

namespace Writes

variable {base n : Nat} {digits : Text}

theorem digitsValue_eq (h : Writes base digits n) : Text.digitsValue base digits = n := by
  obtain ⟨_, zeros, hds⟩ := h
  rw [digitsValue_eq_ofDigits base hds, List.reverse_append, List.reverse_reverse,
    List.reverse_replicate, Nat.ofDigits_append_replicate_zero, Nat.ofDigits_digits]

theorem isDigitOf (h : Writes base digits n) (hb : 2 ≤ base) :
    ∀ c ∈ digits, c.isDigitOf base = true := by
  obtain ⟨_, zeros, hds⟩ := h
  refine isDigitOf_of_writesDigit hds fun d hd => ?_
  rcases List.mem_append.1 hd with hzero | hdigit
  · rw [List.eq_of_mem_replicate hzero]
    exact Nat.lt_of_lt_of_le Nat.zero_lt_two hb
  · exact Nat.digits_lt_base hb (List.mem_reverse.1 hdigit)

end Writes

/-! ## Numerals -/

theorem isPowerOfTwo_iff {base : Nat} (h2 : 2 ≤ base) (h36 : base ≤ 36) :
    isPowerOfTwo base = true ↔ base.isPowerOfTwo := by
  have hsmall : ∀ base ≤ 36, 2 ≤ base → (isPowerOfTwo base = true ↔ ∃ k < 6, base = Nat.pow 2 k) := by
    decide
  rw [hsmall base h36 h2]
  constructor
  · rintro ⟨k, _, hk⟩
    exact ⟨k, hk⟩
  · rintro ⟨k, hk⟩
    refine ⟨k, ?_, hk⟩
    have hlt : 2 ^ k < 2 ^ 6 := by omega
    exact (Nat.pow_lt_pow_iff_right Nat.one_lt_two).1 hlt

/-- The letter that marks a base is none of its digits. -/
theorem marksBase_of_isDigitOf {base : Nat} {c : CodePoint} (h : c.isDigitOf base = true) :
    marksBase base c = false := by
  rw [CodePoint.isDigitOf_iff] at h
  have hx := CodePoint.lowerAscii_eq_iff (c := c) (d := 'x') (by decide)
  have ho := CodePoint.lowerAscii_eq_iff (c := c) (d := 'o') (by decide)
  have hb := CodePoint.lowerAscii_eq_iff (c := c) (d := 'b') (by decide)
  simp only [Char.reduceToNat] at hx ho hb
  unfold marksBase
  simp only [hx, ho, hb, Bool.or_eq_false_iff, Bool.and_eq_false_iff, decide_eq_false_iff_not]
  omega

/-- In a larger base, what marks a smaller one are two digits, and they stay. -/
theorem dropMark_of_digits {base : Nat} {t : Text} (ht : ∀ c ∈ t, c.isDigitOf base = true) :
    dropMark base t = t := by
  match t with
  | [] => rfl
  | [_] => rfl
  | z :: m :: rest =>
    have hm := marksBase_of_isDigitOf (ht m (by simp))
    rw [dropMark, hm, Bool.and_false]
    rfl

theorem IsSign.spelling {z : Int} {sign : Text} (hs : IsSign z sign) :
    SignSpelling sign (decide (z < 0)) := by
  unfold IsSign at hs
  split at hs
  · rename_i hz
    rw [hs, decide_eq_true hz]
    exact .minus
  · rename_i hz
    rw [decide_eq_false hz]
    rcases hs with rfl | rfl
    · exact .none
    · exact .plus

theorem splitSign_of_isSign {base : Nat} {z : Int} {sign t : Text} (hs : IsSign z sign)
    (ht : ∀ c ∈ t, c.isDigitOf base = true) : splitSign (sign ++ t) = (decide (z < 0), t) :=
  hs.spelling.splitSign fun c hc => ne_sign_of_isDigitOf (ht c (List.mem_of_head? hc))

theorem IsSign.eq_of_mem {z : Int} {sign : Text} {c : CodePoint} (hs : IsSign z sign)
    (hc : c ∈ sign) : c = '-' ∨ c = '+' := hs.spelling.eq_of_mem hc

/-- Signs and digits are ASCII, and none is white space. -/
theorem ascii_of_signed {base : Nat} {z : Int} {sign t : Text} (hs : IsSign z sign)
    (ht : ∀ c ∈ t, c.isDigitOf base = true) :
    ∀ c ∈ sign ++ t, 32 < c.val ∧ c.val < 127 := by
  intro c hc
  rcases List.mem_append.1 hc with hc | hc
  · rcases hs.eq_of_mem hc with rfl | rfl <;> decide
  · have := CodePoint.isDigitOf_iff.1 (ht c hc)
    omega

theorem parse_signed {base : Nat} {z : Int} {sign t : Text} (hs : IsSign z sign)
    (ht : ∀ c ∈ t, c.isDigitOf base = true) :
    parse base (sign ++ t) = (magnitude base t).map fun n : Nat => if z < 0 then -(n : Int) else n := by
  have hascii := ascii_of_signed hs ht
  have hmap : (sign ++ t).map toAscii = sign ++ t :=
    (List.map_congr_left fun c hc => if_pos (hascii c hc).2).trans (List.map_id _)
  have hdrop : (sign ++ t).dropWhile isMargin = sign ++ t := by
    cases hu : sign ++ t with
    | nil => rfl
    | cons c rest =>
      have hc := hascii c (by rw [hu]; exact List.mem_cons_self)
      rw [List.dropWhile_cons_of_neg]
      simp only [isMargin, CodePoint.between, CodePoint.eq_ofChar_iff, Char.reduceToNat, Bool.or_eq_true,
        decide_eq_true_eq]
      omega
  unfold parse
  rw [hmap, hdrop, splitSign_of_isSign hs ht]
  simp only [dropMark_of_digits ht, decide_eq_true_eq]
  cases magnitude base t <;> rfl

/-- What the digits of an integer come to, behind its sign. -/
theorem Writes.parse_eq {base : Nat} {z : Int} {sign digits : Text} (h : Writes base digits z.natAbs)
    (hb : 2 ≤ base) (hs : IsSign z sign) :
    parse base (sign ++ digits) = if !isPowerOfTwo base && decide (digitLimit < digits.length) then
      .error (.tooManyDigits digits.length) else .ok z := by
  rw [parse_signed hs (h.isDigitOf hb), magnitude_eq_of_digits h.1 (h.isDigitOf hb), h.digitsValue_eq]
  by_cases hmany : (!isPowerOfTwo base && decide (digitLimit < digits.length)) = true
  · rw [if_pos hmany, if_pos hmany]
    rfl
  · have hz : (if z < 0 then -(z.natAbs : Int) else z.natAbs) = z := by split <;> omega
    rw [if_neg hmany, if_neg hmany, Except.map, hz]

end Numeral

namespace Reading

/-! ## Marks of a radix -/

/-- What stands before an integer of a radix: the radix in decimal and a letter, or the
letter of one of three radices. -/
inductive RadixSpelling : Nat → Text → Prop
  | numbered {radix : Nat} {c : CodePoint} (h2 : 2 ≤ radix) (h36 : radix ≤ 36)
      (hc : c = 'r' ∨ c = 'R') : RadixSpelling radix ('#' :: (Text.ofNat radix ++ [c]))
  | hexadecimal {c : CodePoint} (hc : c = 'x' ∨ c = 'X') : RadixSpelling 16 ['#', c]
  | octal {c : CodePoint} (hc : c = 'o' ∨ c = 'O') : RadixSpelling 8 ['#', c]
  | binary {c : CodePoint} (hc : c = 'b' ∨ c = 'B') : RadixSpelling 2 ['#', c]

theorem RadixSpelling.bounds {radix : Nat} {mark : Text} (h : RadixSpelling radix mark) :
    2 ≤ radix ∧ radix ≤ 36 := by
  cases h with
  | numbered h2 h36 => exact ⟨h2, h36⟩
  | hexadecimal => decide
  | octal => decide
  | binary => decide

variable {known : CharacterNames}

/-- A digit after `#` begins the number of a radix. -/
theorem readDispatch_digit (start : Nat) {c : CodePoint} (rest : Text)
    (hc : c.isDecimalDigit = true) : readDispatch start (c :: rest) = readRadix start (c :: rest) := by
  have hv := CodePoint.isDecimalDigit_iff.1 hc
  have hx := CodePoint.lowerAscii_eq_iff (c := c) (d := 'x') (by decide)
  have ho := CodePoint.lowerAscii_eq_iff (c := c) (d := 'o') (by decide)
  have hb := CodePoint.lowerAscii_eq_iff (c := c) (d := 'b') (by decide)
  simp only [Char.reduceToNat] at hx ho hb
  have hnone : radixOf? c = none := by
    rw [radixOf?, if_neg (by rw [hx]; omega), if_neg (by rw [ho]; omega), if_neg (by rw [hb]; omega)]
  unfold readDispatch
  simp only [CodePoint.eq_ofChar_iff, Char.reduceToNat, hnone, CodePoint.isDigit_of_isDecimalDigit hc]
  repeat rw [if_neg (by omega)]
  rfl

/-- Behind the mark of a radix its digits are read. The mark begins no comment. -/
theorem RadixSpelling.exists_lexemeAt {radix : Nat} {mark : Text} (h : RadixSpelling radix mark) :
    ∃ (d : CodePoint) (tail : Text), mark = CodePoint.ofChar '#' :: d :: tail ∧ d ≠ '!' ∧ d ≠ '@' ∧
      ∀ t, lexemeAt 0 '#' (d :: tail ++ t) = readInteger 0 radix mark.length t := by
  cases h with
  | @numbered radix c h2 h36 hc =>
    have hdigits := Text.isDecimalDigit_of_mem_ofNat radix
    have hparse : Numeral.parse 10 (Text.ofNat radix) = .ok radix := by
      have hpow : ∀ k, 2 ≤ k → radix < Nat.pow 10 k := fun k hk =>
        Nat.lt_of_lt_of_le (Nat.lt_of_le_of_lt h36 (by decide : 36 < Nat.pow 10 2))
          (Nat.pow_le_pow_right (by decide) hk)
      exact parse_ofNat (hpow Numeral.digitLimit (by decide))
    obtain ⟨d, run, hrun⟩ := List.exists_cons_of_ne_nil (Text.ofNat_ne_nil radix)
    have hd : d.isDecimalDigit = true := hdigits d (by rw [hrun]; exact List.mem_cons_self)
    refine ⟨d, run ++ [c], by rw [hrun]; rfl, ?_, ?_, fun t => ?_⟩
    · rintro rfl
      cases hd
    · rintro rfl
      cases hd
    · have hc' : c.isDigit = false ∧ c.lowerAscii = 'r' := by
        rcases hc with rfl | rfl <;> decide
      have htext : d :: (run ++ [c]) ++ t = Text.ofNat radix ++ c :: t := by simp [hrun]
      have hbounds : ¬((radix : Int) < 2 ∨ 36 < (radix : Int)) := by omega
      show readDispatch 0 (d :: (run ++ [c] ++ t)) = _
      rw [readDispatch_digit 0 _ hd, ← List.cons_append, htext,
        readRadix_run 0 t (fun e he => CodePoint.isDigit_of_isDecimalDigit (hdigits e he)) hc'.1,
        if_neg (by simp [hc'.2]), hparse]
      simp only [if_neg hbounds, Int.toNat_natCast, List.length_cons, List.length_append,
        List.length_nil]
      congr 1
      omega
  | hexadecimal hc =>
    rcases hc with rfl | rfl <;> exact ⟨_, [], rfl, by decide, by decide, fun _ => rfl⟩
  | octal hc =>
    rcases hc with rfl | rfl <;> exact ⟨_, [], rfl, by decide, by decide, fun _ => rfl⟩
  | binary hc =>
    rcases hc with rfl | rfl <;> exact ⟨_, [], rfl, by decide, by decide, fun _ => rfl⟩

/-- What the digits of an integer are read as, behind its sign. -/
theorem readInteger_signed {radix : Nat} {sign digits : Text} {z : Int} (hr : 2 ≤ radix)
    (hs : Numeral.IsSign z sign) (hd : Numeral.Writes radix digits z.natAbs) (start pos : Nat) :
    readInteger start radix pos (sign ++ digits) =
      if !Numeral.isPowerOfTwo radix && decide (Numeral.digitLimit < digits.length) then
        .malformed start (.invalidInteger radix (sign ++ digits)) (pos + (sign ++ digits).length)
      else .done (.atom (.int z)) ⟨pos + (sign ++ digits).length, []⟩ := by
  have htoken : IsToken (sign ++ digits) := by
    intro c hc
    rcases List.mem_append.1 hc with hc | hc
    · rcases hs.eq_of_mem hc with rfl | rfl <;> decide
    · exact isToken_of_isDigitOf (hd.isDigitOf hr) c hc
  have hread := @IsToken.readToken _ htoken pos [] rfl
  rw [List.append_nil] at hread
  have hparse := hd.parse_eq hr hs
  rw [readInteger, Outcome.bind_of_done hread]
  by_cases hmany : (!Numeral.isPowerOfTwo radix && decide (Numeral.digitLimit < digits.length)) = true
  · rw [if_pos hmany] at hparse ⊢
    rw [hparse]
  · rw [if_neg hmany] at hparse ⊢
    rw [hparse]

end Reading

open Reading

section

variable {known : CharacterNames}

/-- An integer is read from its digits in any radix, behind the mark of the radix and the
sign of the integer. In a radix that is no power of two there may be too many digits: the
text is then refused at its number sign. -/
theorem readAll_radix_integer {radix : Nat} {mark sign digits : Text} {z : Int}
    (hm : RadixSpelling radix mark) (hs : Numeral.IsSign z sign)
    (hd : Numeral.Writes radix digits z.natAbs) :
    (radix.isPowerOfTwo ∨ digits.length ≤ Numeral.digitLimit →
      readAll (mark ++ (sign ++ digits)) =
        .ok [⟨.int z, .ofNat 0 (mark ++ (sign ++ digits)).length, []⟩]) ∧
    (¬radix.isPowerOfTwo → Numeral.digitLimit < digits.length →
      readAll (mark ++ (sign ++ digits)) =
        .error (.malformed 0 (.invalidInteger radix (sign ++ digits)))) := by
  obtain ⟨h2, h36⟩ := hm.bounds
  obtain ⟨c, tail, hmark, hline, hblock, hlex⟩ := hm.exists_lexemeAt
  have hread := (hlex _).trans (readInteger_signed h2 hs hd 0 mark.length)
  rw [← Numeral.isPowerOfTwo_iff h2 h36]
  rw [← List.length_append, hmark, List.cons_append] at hread
  rw [hmark, List.cons_append]
  constructor
  · intro hfew
    rw [if_neg] at hread
    · exact readAll_of_lexemeAt (by decide) (by decide) hread
    · rcases hfew with hp | hl
      · simp [hp]
      · simp [Nat.not_lt.2 hl]
  · intro hp hl
    rw [if_pos (by simp [hp, hl])] at hread
    exact readAll_of_lexemeAt_failed (skipBlanks_sign 0 _ hline hblock) hread

end

open SomeNames

theorem readAll_radix_integer_mark_and_zeros :
    readAll (Text.of "#24r" ++ (Text.of "-" ++ Text.of "0B1k")) =
      .ok [⟨.int (-6380), .ofNat 0 9, []⟩] ∧
    readAll (Text.of "#10R" ++ ([] ++ List.replicate 4301 (CodePoint.ofChar '0'))) =
      .error (.malformed 0 (.invalidInteger 10
        ([] ++ List.replicate 4301 (CodePoint.ofChar '0')))) := by
  constructor
  · have hmark : RadixSpelling 24 (Text.of "#24r") := by
      have hradix : Text.ofNat 24 = Text.of "24" := by decide +kernel
      have h := RadixSpelling.numbered (by decide : 2 ≤ 24) (by decide) (.inl rfl)
      rwa [hradix] at h
    have hsign : Numeral.IsSign (-6380) (Text.of "-") := by simp [Numeral.IsSign]
    have hdigits : Numeral.Writes 24 (Text.of "0B1k") 6380 := by
      have hbase : (Nat.digits 24 6380).reverse = [11, 1, 20] := by simp
      refine ⟨by decide, 1, ?_⟩
      rw [hbase]
      exact .cons ⟨'0', rfl, .inl rfl⟩ (.cons ⟨'b', rfl, .inr rfl⟩ (.cons ⟨'1', rfl, .inl rfl⟩
        (.cons ⟨'k', rfl, .inl rfl⟩ .nil)))
    exact (readAll_radix_integer hmark hsign hdigits).1 (.inr (by decide))
  · have hmark : RadixSpelling 10 (Text.of "#10R") := by
      have hradix : Text.ofNat 10 = Text.of "10" := by decide +kernel
      have h := RadixSpelling.numbered (by decide : 2 ≤ 10) (by decide) (.inr rfl)
      rwa [hradix] at h
    have hsign : Numeral.IsSign 0 [] := by simp [Numeral.IsSign]
    have hdigits : ∀ n, Numeral.Writes 10 (List.replicate (n + 1) (CodePoint.ofChar '0')) 0 := by
      intro n
      refine ⟨List.cons_ne_nil _ _, n + 1, ?_⟩
      rw [Nat.digits_zero, List.reverse_nil, List.append_nil]
      induction n with
      | zero => exact .cons ⟨'0', rfl, .inl rfl⟩ .nil
      | succ n ih => exact .cons ⟨'0', rfl, .inl rfl⟩ ih
    refine (readAll_radix_integer hmark hsign (hdigits 4300)).2 ?_ ?_
    · rw [← Numeral.isPowerOfTwo_iff (by decide) (by decide)]
      decide
    · rw [List.length_replicate]
      decide

end LispXref
