-- Characters with modifiers. A character is spelled as any number of modifiers in front of a
-- body, which is a plain character or an escape. Main statement: neither the order of the
-- modifiers matters nor how control is written. The code is that of the body, changed by
-- control if control is there, with the bits of the other modifiers set.
import LispXref.Proofs.Alone
import LispXref.Proofs.Offset
import LispXref.Reading.SomeNames

namespace LispXref.Reading

/-! ## Bits -/

/-- Setting a bit adds its weight, unless it is set. -/
theorem or_shiftLeft (n k : Nat) :
    n ||| 1 <<< k = if n / 1 <<< k % 2 = 1 then n else n + 1 <<< k := by
  rw [Nat.one_shiftLeft]
  split
  · rename_i hset
    apply Nat.eq_of_testBit_eq
    intro i
    rw [Nat.testBit_or, Nat.testBit_two_pow]
    by_cases hi : k = i
    · rw [← hi, Nat.testBit_eq_decide_div_mod_eq, decide_eq_true hset, Bool.true_or]
    · rw [decide_eq_false hi, Bool.or_false]
  · rename_i hclear
    -- Nothing is carried: the bits below `k` stand apart from those above it.
    have hbelow : n % 2 ^ (k + 1) = n % 2 ^ k := by
      rw [Nat.pow_succ, Nat.mod_mul]
      have : n / 2 ^ k % 2 = 0 := by omega
      rw [this, Nat.mul_zero, Nat.add_zero]
    have hlt : n % 2 ^ k < 2 ^ k := Nat.mod_lt _ (Nat.two_pow_pos k)
    have hsplit : n = 2 ^ (k + 1) * (n / 2 ^ (k + 1)) + n % 2 ^ k := by
      rw [← hbelow, Nat.div_add_mod]
    have hroom : 2 ^ (k + 1) = 2 ^ k * 2 := Nat.pow_succ 2 k
    generalize n / 2 ^ (k + 1) = a at hsplit
    generalize n % 2 ^ k = r at hsplit hlt
    calc n ||| 2 ^ k = 2 ^ (k + 1) * a ||| r ||| 2 ^ k := by
          rw [hsplit, Nat.two_pow_add_eq_or_of_lt (by omega)]
      _ = 2 ^ (k + 1) * a ||| (r + 2 ^ k) := by rw [Nat.or_assoc, Nat.or_two_pow_eq_add_of_lt hlt]
      _ = 2 ^ (k + 1) * a + (r + 2 ^ k) := (Nat.two_pow_add_eq_or_of_lt (by omega) a).symm
      _ = n + 2 ^ k := by rw [hsplit, Nat.add_assoc]

/-- On the codes of characters, setting a bit is a bitwise or. -/
theorem setBit_natCast (k n : Nat) : setBit k (n : Int) = ((n ||| 1 <<< k : Nat) : Int) := by
  have hset : (n : Int) / (1 <<< k : Nat) % 2 = 1 ↔ n / 1 <<< k % 2 = 1 := by
    rw [← Int.natCast_ediv]
    omega
  rw [or_shiftLeft]
  unfold setBit
  simp only [hset]
  split
  · rfl
  · exact (Int.natCast_add n (1 <<< k)).symm

theorem setBit_comm (j k n : Nat) : setBit j (setBit k (n : Int)) = setBit k (setBit j (n : Int)) := by
  rw [setBit_natCast, setBit_natCast, setBit_natCast, setBit_natCast, Nat.or_assoc,
    Nat.or_comm (1 <<< k), ← Nat.or_assoc]

/-- Setting a bit does not change the sign. -/
theorem setBit_neg_iff (k : Nat) (code : Int) : setBit k code < 0 ↔ code < 0 := by
  have hpos : (0 : Int) < (1 <<< k : Nat) := by
    rw [Nat.one_shiftLeft]
    exact_mod_cast Nat.two_pow_pos k
  unfold setBit
  dsimp only
  generalize ((1 <<< k : Nat) : Int) = bit at hpos
  split
  · rfl
  · rename_i hclear
    have hsplit := Int.mul_ediv_add_emod code bit
    have hlt := Int.emod_lt_of_pos code hpos
    have hnonneg := Int.emod_nonneg code (Int.ne_of_gt hpos)
    constructor
    · intro h
      omega
    · intro h
      -- A negative quotient that is even is at most -2.
      have hquot : code / bit < 0 := Int.ediv_neg_of_neg_of_pos h hpos
      have htwo : code / bit ≤ -2 := by omega
      have hmul := Int.mul_le_mul_of_nonneg_left htwo (Int.le_of_lt hpos)
      omega

/-! ## Control -/

/-- The bits of modifiers lie above those of a character. -/
theorem exists_shiftLeft_eq {k : Nat} (hk : 22 ≤ k) :
    ∃ d : Int, ((1 <<< k : Nat) : Int) = plainCodes * d := by
  obtain ⟨j, rfl⟩ := Nat.exists_eq_add_of_le hk
  refine ⟨(1 <<< j : Nat), ?_⟩
  rw [Nat.one_shiftLeft, Nat.one_shiftLeft, Nat.pow_add, Int.natCast_mul]
  rfl

theorem setBit_emod {k : Nat} (hk : 22 ≤ k) (code : Int) :
    setBit k code % plainCodes = code % plainCodes := by
  obtain ⟨d, hd⟩ := exists_shiftLeft_eq hk
  unfold setBit
  dsimp only
  rw [hd]
  split
  · rfl
  · exact Int.add_mul_emod_self_left _ _ _

/-- Setting a modifier's bit leaves the bits of the character, whatever they are. -/
theorem setBit_replace {k : Nat} (hk : 22 ≤ k) (code : Int) {low : Int} (h0 : 0 ≤ low)
    (hlow : low < plainCodes) :
    setBit k (code - code % plainCodes + low) = setBit k code - code % plainCodes + low := by
  obtain ⟨d, hd⟩ := exists_shiftLeft_eq hk
  have hquot : (code - code % plainCodes + low) / plainCodes = code / plainCodes := by
    unfold plainCodes at *
    omega
  have hnonneg : 0 ≤ plainCodes := by decide
  unfold setBit
  dsimp only
  rw [hd, ← Int.ediv_ediv_of_nonneg hnonneg, ← Int.ediv_ediv_of_nonneg hnonneg, hquot]
  split <;> omega

/-- What control does depends on the bits of the character only: it puts others in their
place, or it sets a bit of its own. -/
theorem applyControl_cases (code : Int) :
    (∃ low, 0 ≤ low ∧ low < plainCodes ∧ ∀ other, other % plainCodes = code % plainCodes →
      applyControl other = other - other % plainCodes + low) ∨
    ∀ other, other % plainCodes = code % plainCodes → applyControl other = setBit 26 other := by
  unfold applyControl
  dsimp only
  by_cases hdelete : code % plainCodes = 63
  · refine .inl ⟨127, by decide, by decide, fun other ho => ?_⟩
    rw [ho, if_pos hdelete]
  · generalize hupper : (if code % plainCodes / 32 % 2 = 1 then code % plainCodes - 32
      else code % plainCodes) = upper
    by_cases hletter : 64 ≤ upper ∧ upper ≤ 95
    · refine .inl ⟨code % plainCodes % 32, Int.emod_nonneg _ (by decide), ?_, fun other ho => ?_⟩
      · have h32 := Int.emod_lt_of_pos (code % plainCodes) (by decide : (0 : Int) < 32)
        exact Int.lt_trans h32 (by decide)
      · rw [ho, if_neg hdelete, hupper, if_pos hletter]
    · refine .inr fun other ho => ?_
      rw [ho, if_neg hdelete, hupper, if_neg hletter]

theorem applyControl_setBit {k : Nat} (hk : 22 ≤ k) (n : Nat) :
    applyControl (setBit k n) = setBit k (applyControl n) := by
  have hsame := setBit_emod hk n
  rcases applyControl_cases n with ⟨low, h0, hlow, hput⟩ | hset
  · rw [hput n rfl, hput _ hsame, hsame, setBit_replace hk _ h0 hlow]
  · rw [hset n rfl, hset _ hsame, setBit_comm]

theorem applyControl_neg_iff (code : Int) : applyControl code < 0 ↔ code < 0 := by
  rcases applyControl_cases code with ⟨low, h0, hlow, hput⟩ | hset
  · rw [hput code rfl]
    unfold plainCodes at *
    omega
  · rw [hset code rfl, setBit_neg_iff]

theorem Modifier.apply_neg_iff (m : Modifier) (code : Int) : m.apply code < 0 ↔ code < 0 := by
  cases m with
  | controlKey => exact applyControl_neg_iff code
  | _ => exact setBit_neg_iff _ code

/-! ## Several modifiers -/

/-- The bit that a modifier sets. Control has none here: it changes the character. -/
def Modifier.bit : Modifier → Nat
  | .altKey => 0x400000
  | .superKey => 0x800000
  | .hyperKey => 0x1000000
  | .shiftKey => 0x2000000
  | .controlKey => 0
  | .metaKey => 0x8000000

/-- The bits that modifiers set together. -/
def modifierBits (ms : List Modifier) : Nat := ms.foldr (fun m bits => m.bit ||| bits) 0

/-- A code with modifiers: control comes first, then the bits of the others. -/
def modifiedCode (ms : List Modifier) (code : Nat) : Nat :=
  (if .controlKey ∈ ms then (applyControl code).toNat else code) ||| modifierBits ms

/-- Applies the modifiers from the last to the first, as they are read. -/
def applyAll (ms : List Modifier) (code : Int) : Int := ms.foldr Modifier.apply code

theorem Modifier.apply_natCast {m : Modifier} (hm : m ≠ .controlKey) (n : Nat) :
    m.apply n = ((n ||| m.bit : Nat) : Int) := by
  cases m with
  | controlKey => exact absurd rfl hm
  | _ => exact setBit_natCast _ n

theorem applyControl_apply {m : Modifier} (hm : m ≠ .controlKey) (n : Nat) :
    applyControl (m.apply n) = m.apply (applyControl n) := by
  cases m with
  | controlKey => exact absurd rfl hm
  | _ => exact applyControl_setBit (by decide) n

theorem toNat_applyControl (n : Nat) : ((applyControl n).toNat : Int) = applyControl n := by
  have hneg := applyControl_neg_iff n
  omega

/-- Control in front of other modifiers comes to the same as control behind them. -/
theorem applyControl_or_modifierBits {ms : List Modifier} (hms : .controlKey ∉ ms) (n : Nat) :
    applyControl ((n ||| modifierBits ms : Nat) : Int) =
      (((applyControl n).toNat ||| modifierBits ms : Nat) : Int) := by
  induction ms with
  | nil => rw [modifierBits, List.foldr_nil, Nat.or_zero, Nat.or_zero, toNat_applyControl]
  | cons m ms ih =>
    have hm : m ≠ .controlKey := fun h => hms (h ▸ List.mem_cons_self)
    have htail := ih fun h => hms (List.mem_cons_of_mem _ h)
    have hbits : modifierBits (m :: ms) = modifierBits ms ||| m.bit := Nat.or_comm _ _
    rw [hbits, ← Nat.or_assoc, ← Nat.or_assoc, ← Modifier.apply_natCast hm, applyControl_apply hm,
      htail, Modifier.apply_natCast hm]

theorem applyAll_eq {ms : List Modifier} (hms : ms.count .controlKey ≤ 1) (n : Nat) :
    applyAll ms n = modifiedCode ms n := by
  induction ms with
  | nil => rw [modifiedCode, modifierBits, List.foldr_nil, Nat.or_zero, if_neg List.not_mem_nil]; rfl
  | cons m ms ih =>
    have htail : applyAll (m :: ms) n = m.apply (modifiedCode ms n) := by
      refine congrArg m.apply (ih ?_)
      exact Nat.le_trans List.count_le_count_cons hms
    rw [htail]
    by_cases hm : m = .controlKey
    · subst hm
      -- There is no second control behind the first one.
      have hnone : .controlKey ∉ ms := by
        rw [List.count_cons_self] at hms
        exact List.count_eq_zero.1 (by omega)
      have hbits : modifierBits (.controlKey :: ms) = modifierBits ms := Nat.zero_or _
      rw [modifiedCode, modifiedCode, if_neg hnone, if_pos List.mem_cons_self, hbits]
      exact applyControl_or_modifierBits hnone n
    · have hmem : (.controlKey ∈ m :: ms) ↔ .controlKey ∈ ms := by
        rw [List.mem_cons]
        exact or_iff_right (Ne.symm hm)
      have hbits : modifierBits (m :: ms) = modifierBits ms ||| m.bit := Nat.or_comm _ _
      rw [Modifier.apply_natCast hm, modifiedCode, modifiedCode, hbits, ← Nat.or_assoc]
      simp only [hmem]

/-- The order of the modifiers does not matter. -/
theorem modifiedCode_perm {ms ns : List Modifier} (h : ms.Perm ns) (n : Nat) :
    modifiedCode ms n = modifiedCode ns n := by
  have hbits : modifierBits ms = modifierBits ns := by
    unfold modifierBits
    refine h.foldr_eq' (fun m _ m' _ bits => ?_) 0
    rw [← Nat.or_assoc, Nat.or_comm m'.bit, Nat.or_assoc]
  rw [modifiedCode, modifiedCode, hbits]
  simp only [h.mem_iff]

/-! ## Spelling -/

/-- The letter of a modifier. -/
def Modifier.letter : Modifier → CodePoint
  | .altKey => 'A'
  | .superKey => 's'
  | .hyperKey => 'H'
  | .shiftKey => 'S'
  | .controlKey => 'C'
  | .metaKey => 'M'

/-- A modifier as it is written: with its letter, or control with a caret. -/
inductive Prefix where
  | letter (m : Modifier)
  | caret

namespace Prefix

def modifier : Prefix → Modifier
  | letter m => m
  | caret => .controlKey

def toText : Prefix → Text
  | letter m => ['\\', m.letter, '-']
  | caret => ['\\', '^']

end Prefix

/-- Modifiers one after the other. -/
def prefixes (ps : List Prefix) : Text := ps.flatMap Prefix.toText

/-- A text that is a character without modifiers: any but a backslash, or a whole escape
whose letter is not that of a modifier. -/
inductive Unmodified [CharacterNames] : Text → Int → Prop
  | plain {c : CodePoint} (hc : c ≠ '\\') : Unmodified [c] c.val
  | escape {start : Nat} {c : CodePoint} {t : Text} {code : Int} {stop : Nat} (hc : c ≠ '^')
      (hm : Modifier.ofLetter? c = none ∨ t.head? ≠ some (CodePoint.ofChar '-'))
      (h : readPlainEscape start c t = .done code ⟨stop, []⟩) : Unmodified ('\\' :: c :: t) code

theorem Modifier.ofLetter?_letter (m : Modifier) :
    ofLetter? m.letter = some m ∧ m.letter ≠ '^' := by
  cases m <;> exact ⟨rfl, by decide⟩

theorem Modifier.letter_of_ofLetter? {c : CodePoint} {m : Modifier} (h : ofLetter? c = some m) :
    c = m.letter := by
  unfold ofLetter? at h
  repeat' split at h
  all_goals cases h
  all_goals assumption

variable {known : CharacterNames}

theorem readModified_prefix (p : Prefix) (pos : Nat) (t : Text) :
    readModified pos (p.toText ++ t) =
      (readModified (pos + p.toText.length) t).map p.modifier.apply := by
  cases p with
  | caret => exact readEscape_control pos t
  | letter m =>
    obtain ⟨hm, hc⟩ := m.ofLetter?_letter
    exact readEscape_modifier pos t hc hm

theorem readModified_prefixes (ps : List Prefix) (pos : Nat) (t : Text) :
    readModified pos (prefixes ps ++ t) =
      (readModified (pos + (prefixes ps).length) t).map (applyAll (ps.map Prefix.modifier)) := by
  induction ps generalizing pos with
  | nil =>
    show readModified pos t = (readModified pos t).map id
    cases readModified pos t <;> rfl
  | cons p ps ih =>
    have hcons : prefixes (p :: ps) = p.toText ++ prefixes ps := List.flatMap_cons
    rw [hcons, List.append_assoc, readModified_prefix, ih, Outcome.map_map, List.length_append,
      Nat.add_assoc]
    rfl

theorem Unmodified.readModified {body : Text} {code : Int} (h : Unmodified body code) (pos : Nat) :
    readModified pos body = .done code ⟨pos + body.length, []⟩ := by
  cases h with
  | plain hc => rw [Reading.readModified, if_neg hc]; rfl
  | @escape start c t code stop hc hm h =>
    obtain ⟨taken, ht, _, hagain⟩ := readPlainEscape_local c t start code _ h
    rw [List.append_nil] at ht
    subst ht
    have hread : readPlainEscape pos c (t ++ []) = .done code ⟨pos + 2 + t.length, []⟩ :=
      hagain pos [] (.refl _)
    rw [List.append_nil] at hread
    have hlen : pos + ('\\' :: c :: t : Text).length = pos + 2 + t.length := by
      simp only [List.length_cons]
      omega
    rw [Reading.readModified, if_pos rfl, readEscape_plain pos hc hm, hread, hlen]

/-- In front of `rest` a text spells a character with modifiers: they stand before a body
whose code they change. -/
def Spells [CharacterNames] (t : Text) (code : Int) (rest : Text) : Prop :=
  ∃ ps body base, t = prefixes ps ++ body ++ rest ∧ Unmodified body base ∧
    code = applyAll (ps.map Prefix.modifier) base

theorem Spells.cons {t rest : Text} {code : Int} (h : Spells t code rest) (p : Prefix) :
    Spells (p.toText ++ t) (p.modifier.apply code) rest := by
  obtain ⟨ps, body, base, rfl, hbody, rfl⟩ := h
  refine ⟨p :: ps, body, base, ?_, hbody, rfl⟩
  rw [prefixes, prefixes, List.flatMap_cons, List.append_assoc, List.append_assoc, List.append_assoc]

theorem spells_of_readPlainEscape {start : Nat} {c : CodePoint} {t : Text} {code : Int}
    {next : Cursor} (hc : c ≠ '^')
    (hm : Modifier.ofLetter? c = none ∨ t.head? ≠ some (CodePoint.ofChar '-'))
    (h : readPlainEscape start c t = .done code next) : Spells ('\\' :: c :: t) code next.rest := by
  obtain ⟨taken, rfl, _, hagain⟩ := readPlainEscape_local c t start code next h
  have halone : readPlainEscape start c (taken ++ []) = .done code ⟨start + 2 + taken.length, []⟩ :=
    hagain start [] (.end _)
  rw [List.append_nil] at halone
  refine ⟨[], '\\' :: c :: taken, code, rfl, .escape hc ?_ halone, rfl⟩
  refine hm.imp_right fun hdash h => hdash ?_
  rw [List.head?_append, h]
  rfl

/-- Whatever is read as a character is spelled as modifiers and a body. -/
theorem spells_of_readModified {pos : Nat} {t : Text} {code : Int} {next : Cursor}
    (h : readModified pos t = .done code next) : Spells t code next.rest := by
  cases t with
  | nil => cases h
  | cons c t =>
    by_cases hc : c = '\\'
    · subst hc
      cases t with
      | nil => cases h
      | cons d t =>
        have hescape : readEscape pos (d :: t) = .done code next := h
        by_cases hd : d = '^'
        · subst hd
          rw [readEscape_control] at hescape
          obtain ⟨base, hbase, rfl⟩ := Outcome.map_eq_done.1 hescape
          exact (spells_of_readModified hbase).cons .caret
        · cases hm : Modifier.ofLetter? d with
          | none =>
            rw [readEscape_plain pos hd (.inl hm)] at hescape
            exact spells_of_readPlainEscape hd (.inl hm) hescape
          | some m =>
            by_cases hdash : t.head? = some (CodePoint.ofChar '-')
            · obtain ⟨t, rfl⟩ := List.head?_eq_some_iff.1 hdash
              rw [readEscape_modifier pos t hd hm] at hescape
              obtain ⟨base, hbase, rfl⟩ := Outcome.map_eq_done.1 hescape
              have hspells := (spells_of_readModified hbase).cons (.letter m)
              rw [Modifier.letter_of_ofLetter? hm]
              exact hspells
            · rw [readEscape_plain pos hd (.inr hdash)] at hescape
              exact spells_of_readPlainEscape hd (.inr hdash) hescape
    · rw [readModified, if_neg hc] at h
      cases h
      exact ⟨[], [c], c.val, rfl, .plain hc, rfl⟩
termination_by t.length

/-! ## Literals -/

/-- A question mark, modifiers and a body. -/
def characterLiteral (ps : List Prefix) (body : Text) : Text := '?' :: (prefixes ps ++ body)

/-- A literal alone in its text is read as one character. -/
theorem readAll_characterLiteral (ps : List Prefix) {body : Text} {code : Int}
    (h : Unmodified body code) :
    readAll (characterLiteral ps body) =
      .ok [⟨.char (applyAll (ps.map Prefix.modifier) code),
        .ofNat 0 (characterLiteral ps body).length, []⟩] := by
  have hread : readModified 1 (prefixes ps ++ body) =
      .done (applyAll (ps.map Prefix.modifier) code) ⟨(characterLiteral ps body).length, []⟩ := by
    rw [readModified_prefixes, h.readModified]
    have hlen : 1 + (prefixes ps).length + body.length = (characterLiteral ps body).length := by
      simp only [characterLiteral, List.length_cons, List.length_append]
      omega
    rw [hlen]
    rfl
  have hchar := readCharacter_eq_done.2 ⟨_, hread, rfl, fun c hc => by cases hc⟩
  have hatom : lexemeAt 0 '?' (prefixes ps ++ body) =
      .done (.atom (.char (applyAll (ps.map Prefix.modifier) code)))
        ⟨(characterLiteral ps body).length, []⟩ := Outcome.map_eq_done.2 ⟨_, hchar, rfl⟩
  exact readAll_of_lexemeAt (by decide) (by decide) hatom

end LispXref.Reading

namespace LispXref

open Reading

section

variable {known : CharacterNames}

/-- Modifiers in any order, with control at most once and written either way, give the same
code: that of the body, with control applied to it and the bits of the others set. -/
theorem modifiers_commute {body : Text} {code : Nat} (h : Unmodified body code) (ps qs : List Prefix)
    (hps : (ps.map Prefix.modifier).count .controlKey ≤ 1)
    (hqs : (qs.map Prefix.modifier).Perm (ps.map Prefix.modifier)) :
    readAll (characterLiteral qs body) =
      .ok [⟨.char (modifiedCode (ps.map Prefix.modifier) code),
        .ofNat 0 (characterLiteral qs body).length, []⟩] := by
  have hcount : (qs.map Prefix.modifier).count .controlKey ≤ 1 := by rwa [hqs.count_eq]
  rw [readAll_characterLiteral qs h, applyAll_eq hcount, modifiedCode_perm hqs]

end

open SomeNames

/-- Meta twice, control and alt in two orders, in front of a code that has the bits of control
and alt already. -/
theorem modifiers_commute_meta_twice :
    readAll (Text.of "?\\M-\\C-\\A-\\M-\\x4400041") = .ok [⟨.char 0xC400001, .ofNat 0 22, []⟩] ∧
    readAll (Text.of "?\\A-\\M-\\M-\\^\\x4400041") = .ok [⟨.char 0xC400001, .ofNat 0 21, []⟩] := by
  have hread : readPlainEscape 0 'x' (Text.of "4400041") = .done (0x4400041 : Nat) ⟨9, []⟩ := rfl
  have hbody : Unmodified (Text.of "\\x4400041") (0x4400041 : Nat) :=
    .escape (by decide) (.inl (by decide)) hread
  constructor
  · exact modifiers_commute hbody
      [.letter .metaKey, .letter .controlKey, .letter .altKey, .letter .metaKey]
      [.letter .metaKey, .letter .controlKey, .letter .altKey, .letter .metaKey]
      (by decide) (by decide)
  · exact modifiers_commute hbody
      [.letter .metaKey, .letter .controlKey, .letter .altKey, .letter .metaKey]
      [.letter .altKey, .letter .metaKey, .letter .metaKey, .caret]
      (by decide) (by decide)

end LispXref
