-- UTF-8, read strictly: no overlong forms, no surrogates, nothing above U+10FFFF
-- and nothing cut off.
import LispXref.Text.Basic

namespace LispXref.Corpus.Utf8

/-- The six bits of a continuation byte. -/
def continuation? (b : UInt8) : Option Nat :=
  if 0x80 ≤ b.toNat ∧ b.toNat < 0xC0 then some (b.toNat - 0x80) else none

/-- The code point of a number that needs at least the bytes it was written with. -/
def checked (least n : Nat) : Option CodePoint :=
  if least ≤ n then (CodePoint.ofNat? n).filter (!·.isSurrogate) else none

/-- The text that bytes spell. -/
def decode : List UInt8 → Option Text
  | [] => some []
  | a :: rest =>
    if a.toNat < 0x80 then do
      let c ← checked 0 a.toNat
      return c :: (← decode rest)
    else if a.toNat < 0xC0 then none
    else if a.toNat < 0xE0 then
      match rest with
      | b :: rest => do
        let c ← checked 0x80 ((a.toNat - 0xC0) * 64 + (← continuation? b))
        return c :: (← decode rest)
      | _ => none
    else if a.toNat < 0xF0 then
      match rest with
      | b :: c :: rest => do
        let p ← checked 0x800 (((a.toNat - 0xE0) * 64 + (← continuation? b)) * 64 + (← continuation? c))
        return p :: (← decode rest)
      | _ => none
    else if a.toNat < 0xF8 then
      match rest with
      | b :: c :: d :: rest => do
        let p ← checked 0x10000 ((((a.toNat - 0xF0) * 64 + (← continuation? b)) * 64
          + (← continuation? c)) * 64 + (← continuation? d))
        return p :: (← decode rest)
      | _ => none
    else none

end LispXref.Corpus.Utf8
