-- The file endings of a configuration. Main statement: there always is one, each starts with a
-- dot and has neither a comma nor white space around it, and a list of such endings is read
-- back from its own text.
import LispXref.Proofs.Configuration
import LispXref.Proofs.Pieces
import Mathlib.Data.List.DropRight

namespace LispXref

/-! ## White space around texts -/

namespace Text

/-- There is no white space at either end. -/
structure Trimmed (t : Text) : Prop where
  front : ∀ c ∈ t.head?, c.isSpace = false
  back : ∀ c ∈ t.getLast?, c.isSpace = false

theorem trim_eq (t : Text) :
    t.trim = (t.dropWhile CodePoint.isSpace).rdropWhile CodePoint.isSpace := rfl

theorem trim_infix (t : Text) : t.trim <:+: t :=
  (List.rdropWhile_prefix _ _).isInfix.trans (List.dropWhile_suffix _).isInfix

theorem trimmed_trim (t : Text) : t.trim.Trimmed where
  front := by
    intro c hc
    -- The beginning is what remains when white space is dropped in front.
    obtain ⟨rest, hrest⟩ := List.head?_eq_some_iff.1 hc
    obtain ⟨more, hmore⟩ := List.rdropWhile_prefix CodePoint.isSpace (t.dropWhile CodePoint.isSpace)
    rw [← trim_eq, hrest] at hmore
    have hhead : (t.dropWhile CodePoint.isSpace).head? = some c := by
      rw [← hmore]
      rfl
    have hnot := List.head?_dropWhile_not CodePoint.isSpace t
    rw [hhead] at hnot
    simpa using hnot
  back := by
    intro c hc
    obtain ⟨hne, rfl⟩ := List.mem_getLast?_eq_getLast hc
    exact Bool.eq_false_iff.2
      (List.rdropWhile_last_not CodePoint.isSpace (t.dropWhile CodePoint.isSpace) hne)

theorem Trimmed.trim_eq_self {t : Text} (h : t.Trimmed) : t.trim = t := by
  have hfront : t.dropWhile CodePoint.isSpace = t := by
    cases t with
    | nil => rfl
    | cons c t => rw [List.dropWhile_cons_of_neg (by simp [h.front c rfl])]
  rw [trim_eq, hfront, List.rdropWhile_eq_self_iff]
  intro hne
  simp [h.back _ (List.getLast?_eq_getLast_of_ne_nil hne)]

end Text

namespace Config

/-! ## Endings -/

/-- A file ending as it is searched for. -/
structure IsExtension (item : Text) : Prop where
  dot : item.head? = some (CodePoint.ofChar '.')
  comma : CodePoint.ofChar ',' ∉ item
  trimmed : item.Trimmed

/-- The dot of an ending is no white space, so it need not be looked for in front. -/
theorem isExtension_withDot {t : Text} (hne : t ≠ []) (hcomma : CodePoint.ofChar ',' ∉ t)
    (ht : t.Trimmed) : IsExtension (Environment.withDot t) := by
  obtain ⟨c, rest, rfl⟩ := List.exists_cons_of_ne_nil hne
  by_cases hc : c = '.'
  · subst hc
    exact ⟨rfl, hcomma, ht⟩
  · have hdot : Environment.withDot (c :: rest) = CodePoint.ofChar '.' :: c :: rest := by
      have hstart : Text.startsWith (c :: rest) (Text.of ".") = false := by
        show (CodePoint.ofChar '.' == c && List.isPrefixOf [] rest) = false
        rw [beq_eq_false_iff_ne.2 (Ne.symm hc), Bool.false_and]
      rw [Environment.withDot, hstart]
      rfl
    rw [hdot]
    refine ⟨rfl, ?_, ?_, ?_⟩
    · rw [List.mem_cons, not_or]
      exact ⟨by decide, hcomma⟩
    · rintro d ⟨⟩
      decide
    · intro d hd
      exact ht.back d (by rwa [List.getLast?_cons_cons] at hd)

namespace IsExtension

variable {item : Text}

theorem withDot_eq (h : IsExtension item) : Environment.withDot item = item := by
  obtain ⟨rest, rfl⟩ := List.head?_eq_some_iff.1 h.dot
  rfl

theorem ne_nil (h : IsExtension item) : item ≠ [] := by
  rintro rfl
  cases h.dot

end IsExtension

/-- An entry is a piece between commas without the white space around it, if that leaves
anything. -/
theorem mem_entries {value t : Text} : t ∈ Environment.entries value ↔
    (∃ part ∈ Text.splitAt ',' value, part.trim = t) ∧ t ≠ [] := by
  simp [Environment.entries]

theorem isExtension_of_mem_entries {value t : Text} (h : t ∈ Environment.entries value) :
    IsExtension (Environment.withDot t) := by
  obtain ⟨⟨part, hpart, rfl⟩, hne⟩ := mem_entries.1 h
  refine isExtension_withDot hne (fun hcomma => ?_) part.trimmed_trim
  exact Text.not_mem_of_mem_splitAt hpart (part.trim_infix.subset hcomma)

/-- Endings that are joined by commas are the entries of their text. -/
theorem entries_join {items : List Text} (hne : items ≠ []) (h : ∀ item ∈ items, IsExtension item) :
    Environment.entries (Text.join (Text.of ",") items) = items := by
  have hsplit : Text.splitAt ',' (Text.join (Text.of ",") items) = items :=
    Text.splitAt_join hne fun item hitem => (h item hitem).comma
  have htrim : items.map Text.trim = items :=
    (List.map_congr_left fun item hitem => (h item hitem).trimmed.trim_eq_self).trans (List.map_id _)
  rw [Environment.entries, hsplit, htrim, List.filter_eq_self]
  intro item hitem
  simpa using (h item hitem).ne_nil

/-- A list of endings is what is configured by its own text. -/
theorem extensions_insert_join (env : Environment) {items : List Text} (hne : items ≠ [])
    (h : ∀ item ∈ items, IsExtension item) :
    (env.insert extensionsVariable (Text.join (Text.of ",") items)).extensions = items := by
  have hdots : items.map Environment.withDot = items :=
    (List.map_congr_left fun item hitem => (h item hitem).withDot_eq).trans (List.map_id _)
  unfold Environment.extensions
  rw [Environment.get?_insert, if_pos rfl, Option.getD_some, entries_join hne h, hdots]
  dsimp only
  rw [if_neg (by simpa using hne)]

theorem extensions_ne_nil (env : Environment) : env.extensions ≠ [] := by
  unfold Environment.extensions
  dsimp only
  split
  · decide
  · rename_i hgiven
    simpa using hgiven

theorem isExtension_of_mem_extensions {env : Environment} {item : Text}
    (h : item ∈ env.extensions) : IsExtension item := by
  unfold Environment.extensions at h
  dsimp only at h
  split at h
  · rw [defaultExtensions, List.mem_singleton] at h
    subst h
    exact ⟨rfl, by decide, by decide, by decide⟩
  · obtain ⟨t, ht, rfl⟩ := List.mem_map.1 h
    exact isExtension_of_mem_entries ht

/-- Whatever the environment says, there are file endings, and each of them starts with a dot and
has neither a comma nor white space at an end. Every list of such endings is configured by its
own text, so the endings of a configuration are what their text configures again. -/
theorem extensions_normalised (env : Environment) :
    env.extensions ≠ [] ∧
    (∀ item ∈ env.extensions, IsExtension item) ∧
    (∀ items, items ≠ [] → (∀ item ∈ items, IsExtension item) →
      (env.insert extensionsVariable (Text.join (Text.of ",") items)).extensions = items) ∧
    (env.insert extensionsVariable (Text.join (Text.of ",") env.extensions)).extensions =
      env.extensions :=
  ⟨extensions_ne_nil env, fun _ h => isExtension_of_mem_extensions h,
    fun _ hne h => extensions_insert_join env hne h,
    extensions_insert_join env (extensions_ne_nil env) fun _ h => isExtension_of_mem_extensions h⟩

theorem extensions_normalised_inner_blank :
    Environment.extensions ⟨[(extensionsVariable, Text.of " el,, .x y\u3000,\t,.")]⟩ =
      [Text.of ".el", Text.of ".x y", Text.of "."] ∧
    IsExtension (Text.of ".x y") ∧
    Environment.extensions ⟨[(extensionsVariable, Text.of ".x y,.el")]⟩ =
      [Text.of ".x y", Text.of ".el"] ∧
    Environment.extensions ⟨[(extensionsVariable, Text.of ".el,.x y,.")]⟩ =
      [Text.of ".el", Text.of ".x y", Text.of "."] := by
  have hvalue : Environment.extensions ⟨[(extensionsVariable, Text.of " el,, .x y\u3000,\t,.")]⟩ =
      [Text.of ".el", Text.of ".x y", Text.of "."] := by decide
  obtain ⟨_, hitems, hall, hagain⟩ :=
    extensions_normalised ⟨[(extensionsVariable, Text.of " el,, .x y\u3000,\t,.")]⟩
  rw [hvalue] at hitems hagain
  have hel : IsExtension (Text.of ".el") := hitems _ (by decide)
  have hxy : IsExtension (Text.of ".x y") := hitems _ (by decide)
  have hback := hall [Text.of ".x y", Text.of ".el"] (List.cons_ne_nil _ _) (by simp [hel, hxy])
  exact ⟨hvalue, hxy, hback, hagain⟩

end Config

end LispXref
