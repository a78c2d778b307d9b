-- The files that paths stand for. Main statements: paths that exist stand for files, whatever
-- the patterns, and the files come in strictly increasing order, so that no two of them
-- have the same written path.
import LispXref.Corpus.Basic
import LispXref.Proofs.Pieces
import Mathlib.Data.List.Nodup

namespace LispXref

/-! ## Lists of results -/

theorem exists_mapM_ok {α β ε : Type} {f : α → Except ε β} {as : List α}
    (h : ∀ a ∈ as, ∃ b, f a = .ok b) : ∃ bs, as.mapM f = .ok bs := by
  induction as with
  | nil => exact ⟨[], rfl⟩
  | cons a as ih =>
    obtain ⟨b, hb⟩ := h a List.mem_cons_self
    obtain ⟨bs, hbs⟩ := ih fun a' ha' => h a' (List.mem_cons_of_mem _ ha')
    exact ⟨b :: bs, by rw [List.mapM_cons, hb, hbs]; rfl⟩

theorem exists_of_mem_mapM {α β ε : Type} {f : α → Except ε β} {as : List α} {bs : List β}
    (h : as.mapM f = .ok bs) {b : β} (hb : b ∈ bs) : ∃ a ∈ as, f a = .ok b := by
  induction as generalizing bs with
  | nil =>
    cases h
    cases hb
  | cons a as ih =>
    rw [List.mapM_cons] at h
    cases ha : f a with
    | error e =>
      rw [ha] at h
      cases h
    | ok b' =>
      cases has : as.mapM f with
      | error e =>
        rw [ha, has] at h
        cases h
      | ok bs' =>
        rw [ha, has] at h
        cases h
        rcases List.mem_cons.1 hb with rfl | hb
        · exact ⟨a, List.mem_cons_self, ha⟩
        · obtain ⟨a', ha', hf⟩ := ih has hb
          exact ⟨a', List.mem_cons_of_mem _ ha', hf⟩

/-! ## The order of texts -/

namespace Text

theorem le_total (s t : Text) : le s t = true ∨ le t s = true := by
  induction s generalizing t with
  | nil => exact .inl rfl
  | cons a s ih =>
    cases t with
    | nil => exact .inr rfl
    | cons b t =>
      simp only [le, Bool.or_eq_true, Bool.and_eq_true, decide_eq_true_eq]
      rcases Nat.lt_trichotomy a.val b.val with hlt | heq | hgt
      · exact .inl (.inl hlt)
      · have hab : a = b := by
          cases a
          cases b
          cases heq
          rfl
        subst hab
        exact (ih t).imp (fun h => .inr ⟨rfl, h⟩) fun h => .inr ⟨rfl, h⟩
      · exact .inr (.inl hgt)

theorem le_antisymm {s t : Text} (h : le s t = true) (h' : le t s = true) : s = t := by
  induction s generalizing t with
  | nil =>
    cases t with
    | nil => rfl
    | cons b t => cases h'
  | cons a s ih =>
    cases t with
    | nil => cases h
    | cons b t =>
      simp only [le, Bool.or_eq_true, Bool.and_eq_true, decide_eq_true_eq] at h h'
      rcases h with hlt | ⟨rfl, hle⟩
      · rcases h' with hgt | ⟨rfl, _⟩ <;> omega
      · rcases h' with hgt | ⟨_, hge⟩
        · omega
        · rw [ih hle hge]

theorem le_trans {s t u : Text} (h : le s t = true) (h' : le t u = true) : le s u = true := by
  induction s generalizing t u with
  | nil => rfl
  | cons a s ih =>
    cases t with
    | nil => cases h
    | cons b t =>
      cases u with
      | nil => cases h'
      | cons c u =>
        simp only [le, Bool.or_eq_true, Bool.and_eq_true, decide_eq_true_eq] at h h' ⊢
        rcases h with hlt | ⟨rfl, hle⟩
        · rcases h' with hlt' | ⟨rfl, _⟩
          · exact .inl (Nat.lt_trans hlt hlt')
          · exact .inl hlt
        · exact h'.imp id fun h' => ⟨h'.1, ih hle h'.2⟩

end Text

namespace Corpus

/-! ## The order of locations -/

namespace Location

theorem le_total (l m : Location) : le l m = true ∨ le m l = true := by
  induction l generalizing m with
  | nil => exact .inl rfl
  | cons a l ih =>
    cases m with
    | nil => exact .inr rfl
    | cons b m =>
      by_cases hab : a = b
      · subst hab
        simpa [le] using ih m
      · simpa [le, hab, Ne.symm hab] using Text.le_total a b

theorem le_antisymm {l m : Location} (h : le l m = true) (h' : le m l = true) : l = m := by
  induction l generalizing m with
  | nil =>
    cases m with
    | nil => rfl
    | cons b m => cases h'
  | cons a l ih =>
    cases m with
    | nil => cases h
    | cons b m =>
      by_cases hab : a = b
      · subst hab
        simp only [le, if_true] at h h'
        rw [ih h h']
      · simp only [le, hab, Ne.symm hab, if_false] at h h'
        exact absurd (Text.le_antisymm h h') hab

theorem le_trans {l m n : Location} (h : le l m = true) (h' : le m n = true) : le l n = true := by
  induction l generalizing m n with
  | nil => rfl
  | cons a l ih =>
    cases m with
    | nil => cases h
    | cons b m =>
      cases n with
      | nil => cases h'
      | cons c n =>
        by_cases hab : a = b
        · subst hab
          by_cases hac : a = c
          · subst hac
            simp only [le, if_true] at h h' ⊢
            exact ih h h'
          · simp only [le, hac, if_false] at h' ⊢
            exact h'
        · simp only [le, hab, if_false] at h
          by_cases hbc : b = c
          · subst hbc
            simp only [le, hab, if_false]
            exact h
          · simp only [le, hbc, if_false] at h'
            have hac : a ≠ c := by
              rintro rfl
              exact hab (Text.le_antisymm h h')
            simp only [le, hac, if_false]
            exact Text.le_trans h h'

/-- A location comes strictly before another. -/
def Before (l m : Location) : Prop := le l m = true ∧ l ≠ m

theorem Before.trans {l m n : Location} (h : Before l m) (h' : Before m n) : Before l n := by
  refine ⟨le_trans h.1 h'.1, ?_⟩
  rintro rfl
  exact h.2 (le_antisymm h.1 h'.1)

end Location

open Location (Before)

theorem mem_insertLocation {l m : Location} {ls : List Location} :
    m ∈ insertLocation l ls ↔ m = l ∨ m ∈ ls := by
  induction ls with
  | nil => simp [insertLocation]
  | cons n ls ih =>
    unfold insertLocation
    split
    · rename_i hln
      simp [hln]
    · split
      · simp
      · simp [ih, or_left_comm]

/-- A location finds its place among others in order. -/
theorem pairwise_insertLocation {ls : List Location} (h : ls.Pairwise Before) (l : Location) :
    (insertLocation l ls).Pairwise Before := by
  induction ls with
  | nil => exact List.pairwise_singleton _ _
  | cons n ls ih =>
    obtain ⟨hn, hls⟩ := List.pairwise_cons.1 h
    unfold insertLocation
    split
    · exact h
    · rename_i hne
      split
      · rename_i hle
        refine List.pairwise_cons.2 ⟨fun m hm => ?_, h⟩
        rcases List.mem_cons.1 hm with rfl | hm
        · exact ⟨hle, hne⟩
        · exact Before.trans ⟨hle, hne⟩ (hn m hm)
      · rename_i hle
        refine List.pairwise_cons.2 ⟨fun m hm => ?_, ih hls⟩
        rcases mem_insertLocation.1 hm with rfl | hm
        · exact ⟨(Location.le_total m n).resolve_left hle, Ne.symm hne⟩
        · exact hn m hm

theorem pairwise_foldl_insertLocation {files : List Location} (h : files.Pairwise Before)
    (ls : List Location) :
    (ls.foldl (fun files l => insertLocation l files) files).Pairwise Before := by
  induction ls generalizing files with
  | nil => exact h
  | cons l ls ih => exact ih (pairwise_insertLocation h l)

theorem mem_foldl_insertLocation {files : List Location} {ls : List Location} {m : Location} :
    m ∈ ls.foldl (fun files l => insertLocation l files) files ↔ m ∈ ls ∨ m ∈ files := by
  induction ls generalizing files with
  | nil => simp
  | cons l ls ih => simp [ih, mem_insertLocation, or_assoc, or_left_comm]

/-! ## Discovered files -/

section Discover

variable {t : FileTree} {cwd : Location} {endings paths : List Text} (excluded : List Text)

/-- Paths that exist stand for files if the endings can be searched for. -/
theorem exists_discover (hpaths : ∀ path ∈ paths, (t.locate cwd (.parse path)).isSome)
    (hendings : ∀ ending ∈ endings, ∃ levels, Glob.parsePath (Text.of "*" ++ ending) = .ok levels) :
    ∃ files, discover t cwd endings excluded paths = .ok files := by
  have hall : ∀ path ∈ paths.map PathName.parse, ∃ ls, filesOf t cwd endings excluded path = .ok ls := by
    intro path hpath
    obtain ⟨p, hp, rfl⟩ := List.mem_map.1 hpath
    obtain ⟨l, hl⟩ := Option.isSome_iff_exists.1 (hpaths p hp)
    unfold filesOf
    rw [hl]
    dsimp only
    split
    · exact ⟨_, rfl⟩
    · have hfound : ∃ found, endings.mapM (filesWithEnding t l excluded) = .ok found := by
        refine exists_mapM_ok fun ending hending => ?_
        obtain ⟨levels, hlevels⟩ := hendings ending hending
        unfold filesWithEnding
        rw [hlevels]
        exact ⟨_, rfl⟩
      obtain ⟨found, hfound⟩ := hfound
      rw [hfound]
      exact ⟨_, rfl⟩
  obtain ⟨found, hfound⟩ := exists_mapM_ok hall
  unfold discover
  rw [hfound]
  exact ⟨_, rfl⟩

variable {excluded}

theorem isFile_of_mem_filesOf {path : PathName} {ls : List Location} {l : Location}
    (h : filesOf t cwd endings excluded path = .ok ls) (hl : l ∈ ls) : t.isFile l = true := by
  unfold filesOf at h
  split at h
  · cases h
  · rename_i dir hdir
    split at h
    · rename_i hfile
      cases h
      rwa [List.mem_singleton.1 hl]
    · split at h
      · rename_i found hfound
        cases h
        obtain ⟨group, hgroup, hl⟩ := List.mem_flatten.1 hl
        obtain ⟨ending, _, hending⟩ := exists_of_mem_mapM hfound hgroup
        unfold filesWithEnding at hending
        split at hending
        · cases hending
        · cases hending
          obtain ⟨route, hroute, rfl⟩ := List.mem_map.1 hl
          exact (Bool.and_eq_true_iff.1 (List.mem_filter.1 hroute).2).1
      · cases h

variable {files : List Location}

theorem isFile_of_mem_discover (h : discover t cwd endings excluded paths = .ok files) {l : Location}
    (hl : l ∈ files) : t.isFile l = true := by
  unfold discover at h
  split at h
  · rename_i found hfound
    cases h
    rcases mem_foldl_insertLocation.1 hl with hl | hl
    · obtain ⟨ls, hls, hl⟩ := List.mem_flatten.1 hl
      obtain ⟨path, _, hpath⟩ := exists_of_mem_mapM hfound hls
      exact isFile_of_mem_filesOf hpath hl
    · cases hl
  · cases h

/-- Discovered files come in order, each once. -/
theorem pairwise_discover (h : discover t cwd endings excluded paths = .ok files) :
    files.Pairwise Before := by
  unfold discover at h
  split at h
  · cases h
    exact pairwise_foldl_insertLocation List.Pairwise.nil _
  · cases h

theorem nodup_discover (h : discover t cwd endings excluded paths = .ok files) : files.Nodup :=
  (pairwise_discover h).imp And.right

end Discover

/-! ## Written locations -/

/-- A name that a path can be taken apart into again. -/
def IsName (name : Text) : Prop := name ≠ [] ∧ CodePoint.ofChar '/' ∉ name

instance (name : Text) : Decidable (IsName name) := inferInstanceAs (Decidable (_ ∧ _))

/-- The names of a tree are names. -/
def FileTree.WellNamed (t : FileTree) : Prop := ∀ e ∈ t.entries, ∀ name ∈ e.1, IsName name

instance (t : FileTree) : Decidable t.WellNamed :=
  inferInstanceAs (Decidable (∀ e ∈ t.entries, ∀ name ∈ e.1, IsName name))

/-- A file is an entry of its tree. -/
theorem FileTree.exists_entry_of_isFile {t : FileTree} {l : Location} (h : t.isFile l = true) :
    ∃ entry, (l, entry) ∈ t.entries := by
  unfold FileTree.isFile FileTree.file? at h
  cases hfind : t.entries.find? fun e => e.1 = l with
  | none =>
    rw [hfind] at h
    cases h
  | some e =>
    have he : e.1 = l := by simpa using List.find?_some hfind
    rw [← he]
    exact ⟨e.2, List.mem_of_find?_eq_some hfind⟩

theorem FileTree.WellNamed.of_isFile {t : FileTree} (h : t.WellNamed) {l : Location}
    (hl : t.isFile l = true) : ∀ name ∈ l, IsName name := by
  obtain ⟨entry, hentry⟩ := exists_entry_of_isFile hl
  exact h _ hentry

theorem splitAt_join {names : List Text} (hne : names ≠ [])
    (h : ∀ name ∈ names, CodePoint.ofChar '/' ∉ name) :
    Text.splitAt '/' (Text.join (Text.of "/") names) = names := Text.splitAt_join hne h

/-- Different locations are written differently. -/
theorem Location.toText_inj {l m : Location} (hl : ∀ name ∈ l, IsName name)
    (hm : ∀ name ∈ m, IsName name) (h : l.toText = m.toText) : l = m := by
  have hjoin : Text.join (Text.of "/") l = Text.join (Text.of "/") m := List.append_cancel_left h
  have hnil : ∀ {n : Location}, (∀ name ∈ n, IsName name) → Text.join (Text.of "/") n = [] → n = [] := by
    intro n hn hempty
    by_contra hne
    have hsplit := splitAt_join hne fun name hname => (hn name hname).2
    rw [hempty] at hsplit
    exact (hn [] (by rw [← hsplit]; exact List.mem_singleton_self _)).1 rfl
  by_cases hle : l = []
  · subst hle
    exact (hnil hm hjoin.symm).symm
  · by_cases hme : m = []
    · subst hme
      exact hnil hl hjoin
    · rw [← splitAt_join hle fun name hname => (hl name hname).2, hjoin,
        splitAt_join hme fun name hname => (hm name hname).2]

/-! ## Loaded files -/

theorem path_of_load? {t : FileTree} {cwd : Location} {path : Text} {s : SourceFile}
    (h : load? t cwd path = some s) : s.path = path := by
  unfold load? at h
  simp only [Option.bind_eq_bind, Option.bind_eq_some_iff, Option.pure_def, Option.some.injEq] at h
  obtain ⟨_, _, _, _, _, _, rfl⟩ := h
  rfl

theorem map_path_load_sublist (t : FileTree) (cwd : Location) (paths : List Text) :
    ((load t cwd paths).map SourceFile.path).Sublist paths := by
  unfold load
  induction paths with
  | nil => exact List.Sublist.slnil
  | cons path paths ih =>
    cases hload : load? t cwd path with
    | none =>
      rw [List.filterMap_cons_none hload]
      exact ih.cons path
    | some s =>
      rw [List.filterMap_cons_some hload, List.map_cons, path_of_load? hload]
      exact ih.cons_cons path

/-- Loaded files have distinct paths. -/
theorem nodup_paths_load {t : FileTree} (ht : t.WellNamed) {cwd : Location}
    {endings excluded paths : List Text} {files : List Location}
    (h : discover t cwd endings excluded paths = .ok files) :
    ((load t cwd (files.map Location.toText)).map SourceFile.path).Nodup := by
  have hwritten : (files.map Location.toText).Nodup := by
    refine List.Nodup.map_on ?_ (nodup_discover h)
    intro l hl m hm
    exact Location.toText_inj (ht.of_isFile (isFile_of_mem_discover h hl))
      (ht.of_isFile (isFile_of_mem_discover h hm))
  exact hwritten.sublist (map_path_load_sublist t cwd _)

end Corpus

end LispXref
