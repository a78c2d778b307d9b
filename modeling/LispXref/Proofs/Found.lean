-- The mapping from paths to matches that a search builds up. Main statements: a path
-- stands where it came first and holds what came last, and keeping the entries of one
-- mapping in another is the same as keeping all that went into it.
import LispXref.Search
import Mathlib.Data.List.Induction
import Mathlib.Data.List.Nodup

namespace LispXref.Found

/-- The paths, in order. -/
def paths (found : Found) : List Text := found.map Prod.fst

/-- Keeps the matches of one file. -/
def keep (found : Found) (hit : Text × List Match) : Found := found.put hit.1 hit.2

/-- What the matches of files amount to, kept one after the other. -/
def ofHits (hits : List (Text × List Match)) : Found := hits.foldl keep []

/-! ## One more path -/

section Put

variable (found : Found) (path : Text) (ms : List Match)

theorem put_of_not_mem {found : Found} {path : Text} (h : path ∉ found.paths) (ms : List Match) :
    found.put path ms = found ++ [(path, ms)] := by
  induction found with
  | nil => rfl
  | cons entry rest ih =>
    rw [paths, List.map_cons, List.mem_cons, not_or] at h
    rw [put, if_neg (Ne.symm h.1), ih h.2, List.cons_append]

/-- A path that has a place keeps it, and a new one comes last. -/
theorem paths_put : (found.put path ms).paths =
    if path ∈ found.paths then found.paths else found.paths ++ [path] := by
  split
  · rename_i h
    induction found with
    | nil => cases h
    | cons entry rest ih =>
      unfold put
      split
      · rename_i he
        rw [paths, List.map_cons, ← he]
        rfl
      · rename_i he
        rw [paths, List.map_cons, List.mem_cons] at h
        have hrest := ih (h.resolve_left (Ne.symm he))
        rw [paths, List.map_cons, ← paths, hrest]
        rfl
  · rename_i h
    rw [put_of_not_mem h, paths, List.map_append]
    rfl

theorem mem_paths_put {p : Text} : p ∈ (found.put path ms).paths ↔ p = path ∨ p ∈ found.paths := by
  rw [paths_put]
  split
  · rename_i h
    constructor
    · exact .inr
    · rintro (rfl | hp)
      · exact h
      · exact hp
  · rw [List.mem_append, List.mem_singleton, or_comm]

theorem nodup_paths_put {found : Found} (h : found.paths.Nodup) (path : Text) (ms : List Match) :
    (found.put path ms).paths.Nodup := by
  rw [paths_put]
  split
  · exact h
  · rename_i hp
    rw [← List.concat_eq_append]
    exact h.concat hp

/-- Only the entry of the path changes. -/
theorem lookup_put (p : Text) :
    (found.put path ms).lookup p = if p = path then some ms else found.lookup p := by
  induction found with
  | nil =>
    rw [put, List.lookup_cons]
    split
    · rename_i hp
      rw [if_pos (eq_of_beq hp)]
    · rename_i hp
      rw [if_neg (ne_of_beq_false hp)]
  | cons entry rest ih =>
    unfold put
    split
    · rename_i he
      rw [List.lookup_cons, List.lookup_cons, he]
      by_cases hp : p = path
      · simp [hp]
      · simp [hp, beq_eq_false_iff_ne.2 hp]
    · rename_i he
      rw [List.lookup_cons, List.lookup_cons, ih]
      by_cases hp : p = path
      · subst hp
        simp [beq_eq_false_iff_ne.2 (Ne.symm he)]
      · simp [hp]

theorem put_put (ms' : List Match) : (found.put path ms).put path ms' = found.put path ms' := by
  induction found with
  | nil => simp [put]
  | cons entry rest ih =>
    by_cases he : entry.1 = path
    · simp [put, he]
    · simp [put, he, ih]

/-- A path with a place may be changed before or after another one. -/
theorem put_comm {found : Found} {path : Text} (h : path ∈ found.paths) {other : Text}
    (hne : other ≠ path) (ms ms' : List Match) :
    (found.put other ms').put path ms = (found.put path ms).put other ms' := by
  induction found with
  | nil => cases h
  | cons entry rest ih =>
    rw [paths, List.map_cons, List.mem_cons] at h
    by_cases he : entry.1 = path
    · have ho : entry.1 ≠ other := fun ho => hne (ho.symm.trans he)
      simp [put, he, Ne.symm hne]
    · have hrest := ih (h.resolve_left (Ne.symm he))
      by_cases ho : entry.1 = other
      · simp [put, ho, hne]
      · simp [put, he, ho, hrest]

end Put

/-! ## Many paths -/

theorem nodup_paths_foldl {found : Found} (h : found.paths.Nodup) (hits : List (Text × List Match)) :
    (hits.foldl keep found).paths.Nodup := by
  induction hits generalizing found with
  | nil => exact h
  | cons hit hits ih => exact ih (nodup_paths_put h hit.1 hit.2)

theorem nodup_paths_nil : (paths []).Nodup := List.nodup_nil

theorem nodup_paths_ofHits (hits : List (Text × List Match)) : (ofHits hits).paths.Nodup :=
  nodup_paths_foldl nodup_paths_nil hits

theorem eraseDups_of_nodup {l : List Text} (h : l.Nodup) : l.eraseDups = l := by
  induction l with
  | nil => rfl
  | cons a l ih =>
    rw [List.nodup_cons] at h
    have hfilter : (l.filter fun b => !b == a) = l := by
      rw [List.filter_eq_self]
      rintro b hb
      have hne : b ≠ a := fun hba => h.1 (hba ▸ hb)
      simp [hne]
    rw [List.eraseDups_cons, hfilter, ih h.2]

/-- The paths stand in the order in which they came first. -/
theorem paths_foldl {found : Found} (h : found.paths.Nodup) (hits : List (Text × List Match)) :
    (hits.foldl keep found).paths = (found.paths ++ hits.map Prod.fst).eraseDups := by
  induction hits generalizing found with
  | nil => rw [List.map_nil, List.append_nil, List.foldl_nil, eraseDups_of_nodup h]
  | cons hit hits ih =>
    rw [List.foldl_cons, keep, ih (nodup_paths_put h hit.1 hit.2), paths_put, List.map_cons]
    split
    · rename_i hmem
      rw [List.eraseDups_append, List.eraseDups_append, List.removeAll, List.removeAll,
        List.filter_cons_of_neg (by simpa using hmem)]
    · rw [List.append_assoc, List.singleton_append]

/-- A path holds what came last. -/
theorem lookup_foldl (found : Found) (hits : List (Text × List Match)) (p : Text) :
    (hits.foldl keep found).lookup p = (hits.reverse ++ found).lookup p := by
  induction hits generalizing found with
  | nil => rfl
  | cons hit hits ih =>
    rw [List.foldl_cons, ih, List.lookup_append, keep, lookup_put, List.reverse_cons,
      List.append_assoc, List.lookup_append, List.singleton_append, List.lookup_cons]
    congr 1
    by_cases hp : p = hit.1
    · simp [hp]
    · simp [hp, beq_eq_false_iff_ne.2 hp]

/-- Distinct paths are kept side by side. -/
theorem foldl_of_nodup {found : Found} {hits : List (Text × List Match)}
    (h : (found.paths ++ hits.map Prod.fst).Nodup) : hits.foldl keep found = found ++ hits := by
  induction hits generalizing found with
  | nil => rw [List.append_nil, List.foldl_nil]
  | cons hit hits ih =>
    rw [List.map_cons] at h
    have hnot : hit.1 ∉ found.paths := by
      intro hmem
      exact (List.nodup_append.1 h).2.2 _ hmem _ List.mem_cons_self rfl
    have hput : found.keep hit = found ++ [hit] := put_of_not_mem hnot hit.2
    rw [List.foldl_cons, hput, ih, List.append_assoc, List.singleton_append]
    rw [paths, List.map_append, List.append_assoc]
    exact h

/-! ## Merging -/

/-- Another path's entry may change before or after later entries that are not its own. -/
theorem put_foldl {found : Found} {path : Text} (h : path ∈ found.paths) {more : Found}
    (hmore : path ∉ more.paths) (ms : List Match) :
    (more.foldl keep found).put path ms = more.foldl keep (found.put path ms) := by
  induction more generalizing found with
  | nil => rfl
  | cons entry more ih =>
    rw [paths, List.map_cons, List.mem_cons, not_or] at hmore
    have hmem : path ∈ (found.keep entry).paths := (mem_paths_put _ _ _).2 (.inr h)
    rw [List.foldl_cons, List.foldl_cons, ih hmem hmore.2, keep, put_comm h (Ne.symm hmore.1)]
    rfl

theorem foldl_put (found : Found) {more : Found} (h : more.paths.Nodup) (path : Text)
    (ms : List Match) :
    (more.put path ms).foldl keep found = (more.foldl keep found).put path ms := by
  induction more generalizing found with
  | nil => rfl
  | cons entry more ih =>
    rw [paths, List.map_cons, List.nodup_cons] at h
    by_cases he : entry.1 = path
    · subst he
      have hmem : entry.1 ∈ (found.keep entry).paths := (mem_paths_put _ _ _).2 (.inl rfl)
      rw [put, if_pos rfl, List.foldl_cons, List.foldl_cons, put_foldl hmem h.1, keep, keep, put_put]
    · rw [put, if_neg he, List.foldl_cons, List.foldl_cons, ih _ h.2]

/-- Keeping the entries of a mapping keeps all that went into it. -/
theorem foldl_ofHits (found : Found) (hits : List (Text × List Match)) :
    (ofHits hits).foldl keep found = hits.foldl keep found := by
  induction hits using List.reverseRecOn with
  | nil => rfl
  | append_singleton hits hit ih =>
    have hnodup := nodup_paths_ofHits hits
    rw [ofHits, List.foldl_append, List.foldl_append, ← ih]
    exact foldl_put found hnodup hit.1 hit.2

end LispXref.Found
