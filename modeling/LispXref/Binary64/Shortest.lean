-- The shortest decimal of a double-precision number: of the decimals that read
-- back as the number those with the fewest digits, and of these the nearest.
import LispXref.Binary64
import LispXref.Text.Basic

namespace LispXref

/-- A decimal `digits * 10^scale`. -/
structure Decimal where
  digits : Nat
  scale : Int

namespace Binary64

/-- The size of a finite number as a quotient. -/
def toRatio (x : Binary64) : Nat × Nat :=
  (x.significand <<< x.exponent.toNat, 1 <<< (-x.exponent).toNat)

/-- Whether a decimal is rounded to the word of `x`. -/
def readsBack (x : Binary64) (d : Decimal) : Bool :=
  (ofDecimal false d.digits d.scale).word = x.word

/-- The exponent of the highest power of ten that is not above a positive
`num / den`, found from an estimate that is at most one too high. -/
def decimalLog (num den : Nat) : Int :=
  let k : Int := (digitCount num : Int) - digitCount den
  if num * Nat.pow 10 (-k).toNat < den * Nat.pow 10 k.toNat then k - 1 else k

/-- The two neighbours of `num / den` among the multiples of `10^scale`, the
nearer one first; of two equally near ones the even one is first. -/
def neighbours (num den : Nat) (scale : Int) : List Decimal :=
  let n := num * Nat.pow 10 (-scale).toNat
  let d := den * Nat.pow 10 scale.toNat
  let below := n / d
  if roundDiv n d = below then [⟨below, scale⟩, ⟨below + 1, scale⟩]
  else [⟨below + 1, scale⟩, ⟨below, scale⟩]

/-- The first decimal that reads back, trying more and more digits. -/
def searchShortest (x : Binary64) (num den : Nat) (log : Int) (count : Nat) : Nat → Decimal
  | 0 => ⟨x.significand, 0⟩
  | fuel + 1 =>
    match (neighbours num den (log + 1 - count)).find? x.readsBack with
    | some d => d
    | none => searchShortest x num den log (count + 1) fuel

/-- The shortest decimal of a finite number other than zero. Seventeen digits
always suffice. -/
def shortest (x : Binary64) : Decimal :=
  let (num, den) := x.toRatio
  searchShortest x num den (decimalLog num den) 1 17

/-- Drops trailing zeros from a decimal's digits. -/
def stripZeros (digits : Text) : Text :=
  (digits.reverse.dropWhile fun c => c = CodePoint.ofChar '0').reverse

/-! ## Writing -/

/-- Digits of a number whose highest digit has weight `10^exponent`, written out
around the decimal point. -/
def positional (digits : Text) (exponent : Int) : Text :=
  if exponent < 0 then
    Text.of "0." ++ List.replicate (-exponent - 1).toNat (CodePoint.ofChar '0') ++ digits
  else
    let whole := digits.take (exponent.toNat + 1)
    let fraction := digits.drop (exponent.toNat + 1)
    whole ++ List.replicate (exponent.toNat + 1 - whole.length) (CodePoint.ofChar '0')
      ++ Text.of "." ++ if fraction.isEmpty then Text.of "0" else fraction

/-- The same number with a power of ten: a sign and at least two digits. -/
def scientific (digits : Text) (exponent : Int) : Text :=
  let mantissa := match digits with
    | first :: second :: rest => first :: '.' :: second :: rest
    | short => short
  let power := Text.ofNat exponent.natAbs
  mantissa ++ Text.of (if exponent < 0 then "e-" else "e+")
    ++ List.replicate (2 - power.length) (CodePoint.ofChar '0') ++ power

/-- A number in its shortest decimal digits: written out while the highest digit
has a weight from `10^-4` to `10^15`, with a power of ten otherwise. -/
def toText (x : Binary64) : Text :=
  if x.isNaN then Text.of "nan"
  else
    let sign := if x.isNegative then Text.of "-" else []
    if x.isInfinite then sign ++ Text.of "inf"
    else if x.word = 0 then sign ++ Text.of "0.0"
    else
      let d := x.shortest
      let all := Text.ofNat d.digits
      let exponent := d.scale + all.length - 1
      let digits := stripZeros all
      sign ++ if -4 ≤ exponent && exponent < 16 then positional digits exponent
        else scientific digits exponent

end Binary64

end LispXref
