-- Double-precision numbers as 64-bit words. A decimal is rounded to the nearest
-- number, ties to the even significand, in exact integer arithmetic.

namespace LispXref

/-- A double-precision number: its IEEE 754 word. -/
structure Binary64 where
  bits : UInt64
  deriving DecidableEq

namespace Binary64

/-! ## Words -/

/-- The sign bit, `2^63`. -/
def signBit : Nat := 0x8000000000000000

/-- One in the last place of the exponent field, `2^52`. -/
def exponentUnit : Nat := 0x10000000000000

/-- The word of infinity: the exponent field is full and the rest is zero. -/
def infinityWord : Nat := 0x7FF * exponentUnit

/-- The number with the given sign and the given word below the sign bit. -/
def ofSignWord (negative : Bool) (word : Nat) : Binary64 :=
  ⟨UInt64.ofNat (word + if negative then signBit else 0)⟩

/-- Infinity of the given sign. -/
def infinity (negative : Bool) : Binary64 := ofSignWord negative infinityWord

/-- The quiet "not a number". -/
def nan : Binary64 := ⟨0x7FF8000000000000⟩

def isNegative (x : Binary64) : Bool := decide (signBit ≤ x.bits.toNat)

/-- The word without the sign bit. -/
def word (x : Binary64) : Nat := x.bits.toNat % signBit

def isNaN (x : Binary64) : Bool := decide (infinityWord < x.word)

def isInfinite (x : Binary64) : Bool := decide (x.word = infinityWord)

/-- The exponent field. -/
def exponentField (x : Binary64) : Nat := x.word / exponentUnit

/-- The significand `m` of a finite number of size `m * 2^q`. -/
def significand (x : Binary64) : Nat :=
  x.word % exponentUnit + if x.exponentField = 0 then 0 else exponentUnit

/-- The exponent `q` of a finite number of size `m * 2^q`. -/
def exponent (x : Binary64) : Int :=
  (if x.exponentField = 0 then 1 else (x.exponentField : Int)) - 1075

/-! ## Rounding -/

/-- The nearest integer to a quotient, ties to even. -/
def roundDiv (num den : Nat) : Nat :=
  let q := num / den
  let twice := 2 * (num % den)
  if twice > den || (twice = den && q % 2 = 1) then q + 1 else q

/-- The exponent of the highest power of two that is not above `num / den`. -/
def binaryLog (num den : Nat) : Int :=
  let k : Int := (num.log2 : Int) - den.log2
  if num <<< (-k).toNat < den <<< k.toNat then k - 1 else k

/-- The word of the number nearest to the positive quotient `num / den`. With
`q` the exponent of the last place, a significand `m` gives the word
`(q + 1074) * 2^52 + m`, also where `m` is below `2^52` and where it was rounded
up to `2^53`. -/
def wordOfRatio (num den : Nat) : Nat :=
  let q := max (binaryLog num den - 52) (-1074)
  let m := roundDiv (num <<< (-q).toNat) (den <<< q.toNat)
  min ((q + 1074).toNat * exponentUnit + m) infinityWord

/-- The number of decimal digits. -/
def digitCount (n : Nat) : Nat := if n < 10 then 1 else digitCount (n / 10) + 1

/-- The number nearest to `digits * 10^scale`. Powers far outside the range of
numbers are settled by the count of the digits. -/
def ofDecimal (negative : Bool) (digits : Nat) (scale : Int) : Binary64 :=
  if digits = 0 then ofSignWord negative 0
  else
    let magnitude : Int := digitCount digits + scale
    if magnitude > 310 then infinity negative
    else if magnitude < -330 then ofSignWord negative 0
    else ofSignWord negative (wordOfRatio (digits * Nat.pow 10 scale.toNat) (Nat.pow 10 (-scale).toNat))

end Binary64

end LispXref
