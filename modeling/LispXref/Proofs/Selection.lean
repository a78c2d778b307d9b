-- Which files paths stand for. Main statement: the files that are named and the files with
-- one of the endings below a named directory, unless a directory on the way is excluded; in
-- order, and however the paths are spelled.
import LispXref.Proofs.Discovery
import Mathlib.Data.List.Sort

namespace LispXref

/-! ## Lists of results -/

/-- What was gathered from a list came from one of its elements. -/
theorem mem_flatten_mapM {α β ε : Type} {f : α → Except ε (List β)} {as : List α}
    {found : List (List β)} (h : as.mapM f = .ok found) {b : β} :
    b ∈ found.flatten ↔ ∃ a ∈ as, ∃ bs, f a = .ok bs ∧ b ∈ bs := by
  induction as generalizing found with
  | nil =>
    cases h
    simp
  | cons a as ih =>
    rw [List.mapM_cons] at h
    cases ha : f a with
    | error e =>
      rw [ha] at h
      cases h
    | ok bs =>
      cases has : as.mapM f with
      | error e =>
        rw [ha, has] at h
        cases h
      | ok others =>
        rw [ha, has] at h
        cases h
        simp [ha, ih has]

/-- The first element that fails decides the fault. -/
theorem mapM_eq_error {α β ε : Type} {f : α → Except ε β} {before after : List α} {a : α} {e : ε}
    (hbefore : ∀ a' ∈ before, ∃ b, f a' = .ok b) (ha : f a = .error e) :
    (before ++ a :: after).mapM f = .error e := by
  induction before with
  | nil =>
    rw [List.nil_append, List.mapM_cons, ha]
    rfl
  | cons a' before ih =>
    obtain ⟨hfirst, hrest⟩ := List.forall_mem_cons.1 hbefore
    obtain ⟨b, hb⟩ := hfirst
    rw [List.cons_append, List.mapM_cons, hb, ih hrest]
    rfl

namespace Corpus

/-! ## Trees -/

/-- A name that an entry of a directory can have. -/
def IsEntryName (name : Text) : Prop := IsName name ∧ name ≠ Text.of "." ∧ name ≠ Text.of ".."

instance (name : Text) : Decidable (IsEntryName name) := inferInstanceAs (Decidable (_ ∧ _))

namespace FileTree

/-- The names of a tree are names that entries can have. -/
def Proper (t : FileTree) : Prop := ∀ e ∈ t.entries, ∀ name ∈ e.1, IsEntryName name

instance (t : FileTree) : Decidable t.Proper :=
  inferInstanceAs (Decidable (∀ e ∈ t.entries, ∀ name ∈ e.1, IsEntryName name))

variable {t : FileTree} {dir l : Location} {names : List Text} {name : Text}

theorem Proper.of_isFile (ht : t.Proper) (h : t.isFile l = true) : ∀ name ∈ l, IsEntryName name := by
  obtain ⟨entry, hentry⟩ := exists_entry_of_isFile h
  exact ht _ hentry

theorem isBelow_iff : isBelow l dir = true ↔ ∃ name rest, l = dir ++ name :: rest := by
  unfold isBelow
  rw [Bool.and_eq_true, List.isPrefixOf_iff_prefix, decide_eq_true_eq]
  constructor
  · rintro ⟨⟨rest, rfl⟩, hne⟩
    cases rest with
    | nil => exact absurd (List.append_nil dir) hne
    | cons name rest => exact ⟨name, rest, rfl⟩
  · rintro ⟨name, rest, rfl⟩
    exact ⟨List.prefix_append _ _, by simp⟩

theorem mem_namesIn : name ∈ t.namesIn dir ↔ ∃ rest entry, (dir ++ name :: rest, entry) ∈ t.entries := by
  unfold namesIn
  simp only [List.mem_eraseDups, List.mem_filterMap, List.mem_filter, List.mem_map, isBelow_iff]
  constructor
  · rintro ⟨_, ⟨⟨e, he, rfl⟩, first, rest, hl⟩, hname⟩
    rw [hl, List.drop_left] at hname
    cases hname
    exact ⟨rest, e.2, by rw [← hl]; exact he⟩
  · rintro ⟨rest, entry, he⟩
    exact ⟨_, ⟨⟨_, he, rfl⟩, name, rest, rfl⟩, by simp⟩

theorem mem_beginnings {α : Type} {as bs : List α} : as ∈ beginnings bs ↔ as <+: bs := by
  induction bs generalizing as with
  | nil => simp [beginnings]
  | cons b bs ih =>
    cases as with
    | nil => simp [beginnings]
    | cons a as =>
      simp only [beginnings, List.mem_cons, List.mem_map, ih, List.cons_prefix_cons]
      grind

/-- There is a way down to every directory that something lies in. -/
theorem mem_directoriesFrom {entry : Entry} (h : (dir ++ names ++ [name], entry) ∈ t.entries) :
    names ∈ t.directoriesFrom dir := by
  unfold directoriesFrom
  simp only [List.mem_filter, List.mem_eraseDups, List.mem_cons, List.mem_flatMap, List.mem_map,
    mem_beginnings]
  constructor
  · refine .inr ⟨names ++ [name], ⟨_, ⟨⟨_, h, rfl⟩, ?_⟩, ?_⟩, List.prefix_append _ _⟩
    · rw [isBelow_iff]
      cases names with
      | nil => exact ⟨name, [], by simp⟩
      | cons first rest => exact ⟨first, rest ++ [name], by simp⟩
    · rw [List.append_assoc, List.drop_left]
  · unfold isDirectory
    rw [Bool.or_eq_true, List.any_eq_true]
    refine .inr ⟨_, h, ?_⟩
    rw [Bool.or_eq_true]
    exact .inl (isBelow_iff.2 ⟨name, [], rfl⟩)

end FileTree

/-! ## Patterns -/

/-- An ending that makes a pattern for one name. -/
def IsEnding (ending : Text) : Prop :=
  CodePoint.ofChar '/' ∉ ending ∧ Glob.hasDoubleStar (Text.of "*" ++ ending) = false

instance (ending : Text) : Decidable (IsEnding ending) := inferInstanceAs (Decidable (_ ∧ _))

/-- The pattern of an ending asks for a name at any depth. -/
theorem parsePath_of_isEnding {ending : Text} (h : IsEnding ending) :
    Glob.parsePath (Text.of "*" ++ ending) =
      .ok [.anyDepth, .name (Glob.parse (Text.of "*" ++ ending))] := by
  obtain ⟨hslash, hstars⟩ := h
  have hpattern : CodePoint.ofChar '/' ∉ Text.of "*" ++ ending := by
    rw [List.mem_append, not_or]
    exact ⟨by decide, hslash⟩
  have hstar : CodePoint.ofChar '*' ≠ CodePoint.ofChar '.' := by decide
  have hlevel : Glob.level (Text.of "*" ++ ending) =
      .ok (.name (Glob.parse (Text.of "*" ++ ending))) := by
    have hne : Text.of "*" ++ ending ≠ Text.of "**" := by
      intro heq
      rw [heq] at hstars
      cases hstars
    have hup : Text.of "*" ++ ending ≠ Text.of ".." := by simp [Text.of, hstar]
    unfold Glob.level
    rw [if_neg hne, if_neg hup, hstars]
    rfl
  have hlast : (Text.of "*" ++ ending).getLast? ≠ some (CodePoint.ofChar '/') :=
    fun hlast => hpattern (List.mem_of_getLast? hlast)
  have hnames : (Text.splitAt '/' (Text.of "*" ++ ending)).filter
      (fun name => !name.isEmpty && name ≠ Text.of ".") = [Text.of "*" ++ ending] := by
    rw [Text.splitAt_of_not_mem hpattern]
    simp [Text.of, hstar]
  unfold Glob.parsePath
  dsimp only
  rw [hnames, List.mapM_cons, hlevel, if_neg hlast]
  rfl

/-- What a search for a name at any depth comes to: a way down and then a name that fits. -/
theorem mem_select_anyDepth {t : FileTree} {items : List Glob.Item} {dir : Location} {r : Route} :
    r ∈ select t [.anyDepth, .name items] (.start dir) ↔
      ∃ names ∈ t.directoriesFrom dir, ∃ name ∈ t.namesIn (dir ++ names),
        Glob.fits items name = true ∧ r = ⟨names ++ [name], PathName.step (dir ++ names) name⟩ := by
  simp [select, Route.start, Route.descend, Route.step, and_assoc]

/-! ## Files below a directory -/

/-- A location lies below a directory, under a name with one of the endings, and no
directory on the way is excluded. -/
def Beneath (endings excluded : List Text) (dir l : Location) : Prop :=
  ∃ dirs name, l = dir ++ dirs ++ [name] ∧ (∀ d ∈ dirs, d ∉ excluded) ∧
    ∃ ending ∈ endings, Glob.fits (Glob.parse (Text.of "*" ++ ending)) name = true

theorem isExcluded_append {excluded : List Text} (dirs : List Text) (name : Text) :
    isExcluded excluded (dirs ++ [name]) = false ↔ ∀ d ∈ dirs, d ∉ excluded := by
  simp [isExcluded]

theorem mem_filesWithEnding {t : FileTree} (ht : t.Proper) {ending : Text} (h : IsEnding ending)
    (dir : Location) (excluded : List Text) :
    ∃ ls, filesWithEnding t dir excluded ending = .ok ls ∧
      ∀ l, l ∈ ls ↔ t.isFile l = true ∧ Beneath [ending] excluded dir l := by
  unfold filesWithEnding
  rw [parsePath_of_isEnding h]
  refine ⟨_, rfl, fun l => ?_⟩
  simp only [List.mem_map, List.mem_filter, Bool.and_eq_true, Bool.not_eq_true', Beneath,
    List.mem_singleton, exists_eq_left]
  constructor
  · rintro ⟨r, ⟨hr, hfile, hexcluded⟩, rfl⟩
    obtain ⟨dirs, _, name, hname, hfits, rfl⟩ := mem_select_anyDepth.1 hr
    -- A name that was found is no way up.
    obtain ⟨rest, entry, hentry⟩ := FileTree.mem_namesIn.1 hname
    have hproper := ht _ hentry name (by simp)
    rw [isExcluded_append] at hexcluded
    refine ⟨hfile, dirs, name, ?_, hexcluded, hfits⟩
    dsimp only [PathName.step]
    rw [if_neg hproper.2.2]
  · rintro ⟨hfile, dirs, name, rfl, hexcluded, hfits⟩
    obtain ⟨entry, hentry⟩ := FileTree.exists_entry_of_isFile hfile
    have hproper := ht.of_isFile hfile name (by simp)
    have hstep : PathName.step (dir ++ dirs) name = dir ++ dirs ++ [name] := if_neg hproper.2.2
    refine ⟨⟨dirs ++ [name], dir ++ dirs ++ [name]⟩, ⟨?_, hfile, ?_⟩, rfl⟩
    · rw [← hstep]
      exact mem_select_anyDepth.2 ⟨dirs, FileTree.mem_directoriesFrom hentry, name,
        FileTree.mem_namesIn.2 ⟨[], entry, hentry⟩, hfits, rfl⟩
    · exact (isExcluded_append dirs name).2 hexcluded

/-! ## Paths -/

/-- The location of a path, seen from a working directory. -/
def resolved (cwd : Location) (path : Text) : Location := (PathName.parse path).resolve cwd

/-- There is something at the end of a path, and at every step of it. -/
def FileTree.Holds (t : FileTree) (cwd : Location) (path : Text) : Prop :=
  (t.locate cwd (.parse path)).isSome = true

instance (t : FileTree) (cwd : Location) (path : Text) : Decidable (t.Holds cwd path) :=
  inferInstanceAs (Decidable (_ = true))

/-- Following a path that exists gets to its location. -/
theorem FileTree.Holds.locate_eq {t : FileTree} {cwd : Location} {path : Text}
    (h : t.Holds cwd path) : t.locate cwd (.parse path) = some (resolved cwd path) := by
  have hfold : ∀ (names : List Text) (l d : Location), names.foldlM t.follow l = some d →
      d = names.foldl PathName.step l := by
    intro names
    induction names with
    | nil =>
      intro l d hd
      cases hd
      rfl
    | cons name names ih =>
      intro l d hd
      obtain ⟨next, hnext, hd⟩ := Option.bind_eq_some_iff.1 hd
      have hstep : next = PathName.step l name := by
        unfold FileTree.follow at hnext
        dsimp only at hnext
        split at hnext
        · exact (Option.some.inj hnext).symm
        · cases hnext
      rw [ih next d hd, hstep, List.foldl_cons]
  obtain ⟨d, hd⟩ := Option.isSome_iff_exists.1 h
  rw [hd, hfold _ _ d hd]
  rfl

/-- A location stands for a file: it is the file, or a directory that the file lies
beneath. -/
def StandsFor (t : FileTree) (endings excluded : List Text) (d l : Location) : Prop :=
  t.isFile l = true ∧ (l = d ∨ t.isFile d = false ∧ Beneath endings excluded d l)

section Paths

variable {t : FileTree} {cwd : Location} {endings paths : List Text}

/-- A path that exists gives the files that its location stands for. -/
theorem mem_filesOf (ht : t.Proper) (hendings : ∀ ending ∈ endings, IsEnding ending)
    (excluded : List Text) {path : Text} (hpath : t.Holds cwd path) :
    ∃ ls, filesOf t cwd endings excluded (.parse path) = .ok ls ∧
      ∀ l, l ∈ ls ↔ StandsFor t endings excluded (resolved cwd path) l := by
  unfold filesOf StandsFor
  rw [hpath.locate_eq]
  generalize resolved cwd path = d
  dsimp only
  by_cases hfile : t.isFile d = true
  · rw [if_pos hfile]
    refine ⟨_, rfl, fun l => ?_⟩
    rw [List.mem_singleton, hfile]
    constructor
    · rintro rfl
      exact ⟨hfile, .inl rfl⟩
    · rintro ⟨_, rfl | ⟨hcontra, _⟩⟩
      · rfl
      · cases hcontra
  · rw [if_neg hfile]
    have hall : ∀ ending ∈ endings, ∃ ls, filesWithEnding t d excluded ending = .ok ls ∧
        ∀ l, l ∈ ls ↔ t.isFile l = true ∧ Beneath [ending] excluded d l :=
      fun ending hending => mem_filesWithEnding ht (hendings ending hending) d excluded
    obtain ⟨found, hfound⟩ := exists_mapM_ok fun ending hending =>
      (hall ending hending).imp fun ls hls => hls.1
    rw [hfound]
    refine ⟨_, rfl, fun l => ?_⟩
    rw [mem_flatten_mapM hfound]
    constructor
    · rintro ⟨ending, hending, ls, hls, hl⟩
      obtain ⟨ls', hls', hmem⟩ := hall ending hending
      cases hls.symm.trans hls'
      obtain ⟨hl, dirs, name, hsplit, hexcluded, _, hone, hfits⟩ := (hmem l).1 hl
      cases List.mem_singleton.1 hone
      exact ⟨hl, .inr ⟨by simpa using hfile, dirs, name, hsplit, hexcluded, ending, hending, hfits⟩⟩
    · rintro ⟨hl, rfl | ⟨_, dirs, name, hsplit, hexcluded, ending, hending, hfits⟩⟩
      · exact absurd hl hfile
      · obtain ⟨ls, hls, hmem⟩ := hall ending hending
        refine ⟨ending, hending, ls, hls, (hmem l).2 ⟨hl, dirs, name, hsplit, hexcluded, ending, ?_⟩⟩
        exact ⟨List.mem_singleton_self _, hfits⟩

/-- Paths that exist give the files that their locations stand for. -/
theorem mem_discover (ht : t.Proper) (hendings : ∀ ending ∈ endings, IsEnding ending)
    (excluded : List Text) (hpaths : ∀ path ∈ paths, t.Holds cwd path) :
    ∃ files, discover t cwd endings excluded paths = .ok files ∧
      ∀ l, l ∈ files ↔ ∃ d ∈ paths.map (resolved cwd), StandsFor t endings excluded d l := by
  have hall := fun path hpath => mem_filesOf ht hendings excluded (hpaths path hpath)
  obtain ⟨found, hfound⟩ := exists_mapM_ok
    (List.forall_mem_map.2 fun path hpath => (hall path hpath).imp fun ls hls => hls.1)
  unfold discover
  rw [hfound]
  refine ⟨_, rfl, fun l => ?_⟩
  rw [mem_foldl_insertLocation, mem_flatten_mapM hfound]
  simp only [List.not_mem_nil, or_false, List.mem_map, exists_exists_and_eq_and]
  constructor
  · rintro ⟨path, hpath, ls, hls, hl⟩
    obtain ⟨ls', hls', hmem⟩ := hall path hpath
    cases hls.symm.trans hls'
    exact ⟨path, hpath, (hmem l).1 hl⟩
  · rintro ⟨path, hpath, hl⟩
    obtain ⟨ls, hls, hmem⟩ := hall path hpath
    exact ⟨path, hpath, ls, hls, (hmem l).2 hl⟩

/-- The first path that does not exist is reported. -/
theorem discover_of_missing (ht : t.Proper) (hendings : ∀ ending ∈ endings, IsEnding ending)
    (excluded : List Text) {before after : List Text} {path : Text}
    (hbefore : ∀ p ∈ before, t.Holds cwd p) (hpath : ¬t.Holds cwd path) :
    discover t cwd endings excluded (before ++ path :: after) = .error (.notFound (.parse path)) := by
  have hfirst : ∀ p ∈ before.map PathName.parse, ∃ ls, filesOf t cwd endings excluded p = .ok ls :=
    List.forall_mem_map.2 fun p hp =>
      (mem_filesOf ht hendings excluded (hbefore p hp)).imp fun ls hls => hls.1
  have hmissing : filesOf t cwd endings excluded (.parse path) = .error (.notFound (.parse path)) := by
    unfold filesOf
    rw [Option.not_isSome_iff_eq_none.1 hpath]
  unfold discover
  rw [List.map_append, List.map_cons, mapM_eq_error hfirst hmissing]

end Paths

/-- Files in order are known from the set of them. -/
theorem eq_of_pairwise_before {files files' : List Location} (h : files.Pairwise Location.Before)
    (h' : files'.Pairwise Location.Before) (hmem : ∀ l, l ∈ files ↔ l ∈ files') : files = files' := by
  have hanti : Std.Antisymm Location.Before :=
    ⟨fun l m hlm hml => absurd (Location.le_antisymm hlm.1 hml.1) hlm.2⟩
  have hirrefl : Std.Irrefl Location.Before := ⟨fun l hl => hl.2 rfl⟩
  exact h.eq_of_mem_iff h' hmem

/-! ## Spellings -/

theorem isEmpty_rootOf (path : Text) :
    (PathName.rootOf path).isEmpty = true ↔ path.head? ≠ some (CodePoint.ofChar '/') := by
  cases path with
  | nil => simp [PathName.rootOf]
  | cons c path =>
    by_cases hc : c = CodePoint.ofChar '/'
    · simp only [PathName.rootOf, List.takeWhile_cons, hc, decide_true, if_true, List.length_cons,
        List.head?_cons, ne_eq, not_true_eq_false, iff_false]
      split <;> simp_all [Text.of]
    · simp [PathName.rootOf, hc]

/-- A location of proper names is written as an absolute path with these names. -/
theorem parse_toText {l : Location} (h : ∀ name ∈ l, IsEntryName name) :
    PathName.parse l.toText = ⟨Text.of "/", l⟩ := by
  have hfirst : (Text.join (Text.of "/") l).takeWhile (· = CodePoint.ofChar '/') = [] := by
    cases l with
    | nil => rfl
    | cons name names =>
      obtain ⟨⟨hne, hslash⟩, _⟩ := h name List.mem_cons_self
      obtain ⟨c, rest, rfl⟩ := List.exists_cons_of_ne_nil hne
      have hc : c ≠ CodePoint.ofChar '/' := fun heq => hslash (heq ▸ List.mem_cons_self)
      cases names <;> simp [Text.join, hc]
  have htext : l.toText = CodePoint.ofChar '/' :: Text.join (Text.of "/") l := rfl
  have hroot : PathName.rootOf l.toText = Text.of "/" := by simp [PathName.rootOf, htext, hfirst]
  have hnames : (Text.splitAt '/' l.toText).filter (fun name => !name.isEmpty && name ≠ Text.of ".") =
      l := by
    rw [htext, Text.splitAt, if_pos rfl, List.filter_cons_of_neg (by simp)]
    by_cases hl : l = []
    · subst hl
      rfl
    · rw [splitAt_join hl fun name hname => (h name hname).1.2, List.filter_eq_self]
      intro name hname
      obtain ⟨⟨hne, _⟩, hdot, _⟩ := h name hname
      simp [hne, hdot]
  rw [PathName.parse, hroot, hnames]

/-- Parts of a path that lead nowhere: none between two slashes, a dot, or a name and back. -/
inductive Idle : List Text → Prop
  | empty : Idle [[]]
  | dot : Idle [Text.of "."]
  | back {name : Text} : name ≠ [] → name ≠ Text.of "." → name ≠ Text.of ".." →
      Idle [name, Text.of ".."]

/-- A path is another one with parts put in that lead nowhere. It is absolute if the other
one is. -/
def Respells (path path' : Text) : Prop :=
  (path.head? = some (CodePoint.ofChar '/') ↔ path'.head? = some (CodePoint.ofChar '/')) ∧
    ∃ front idle back, Idle idle ∧ Text.splitAt '/' path = front ++ idle ++ back ∧
      Text.splitAt '/' path' = front ++ back

theorem Respells.resolved_eq {path path' : Text} (h : Respells path path') (cwd : Location) :
    resolved cwd path = resolved cwd path' := by
  obtain ⟨habsolute, front, idle, back, hidle, hpath, hpath'⟩ := h
  have horigin : (PathName.parse path).origin cwd = (PathName.parse path').origin cwd := by
    unfold PathName.origin PathName.parse
    dsimp only
    simp only [isEmpty_rootOf, ne_eq, habsolute]
  have hnowhere : ∀ l : Location, (idle.filter fun name => !name.isEmpty && name ≠ Text.of ".").foldl
      PathName.step l = l := by
    intro l
    cases hidle with
    | empty => simp
    | dot => simp
    | @back name hne hdot hup =>
      have hparts : [name, Text.of ".."].filter (fun part => !part.isEmpty && part ≠ Text.of ".") =
          [name, Text.of ".."] := by
        rw [List.filter_eq_self]
        simp [hne, hdot]
        decide
      rw [hparts]
      simp [PathName.step, hup, Location.parent]
  unfold resolved PathName.resolve
  rw [horigin]
  simp only [PathName.parse, hpath, hpath', List.filter_append, List.foldl_append, hnowhere]

/-! ## Exactly the right files -/

/-- Paths that all exist give exactly the files that they stand for. The files come in
strictly increasing order, as absolute paths without dots, and only the locations of the paths
matter: not their order or number, and not the spelling, since parts that lead nowhere do not
change a location. If a path does not exist, the first such path is reported. -/
theorem discover_finds_exactly {t : FileTree} (ht : t.Proper) {endings : List Text}
    (hendings : ∀ ending ∈ endings, IsEnding ending) (cwd : Location) (excluded paths : List Text) :
    ((∀ path ∈ paths, t.Holds cwd path) →
      ∃ files, discover t cwd endings excluded paths = .ok files ∧
        files.Pairwise Location.Before ∧
        (∀ l ∈ files, PathName.parse l.toText = ⟨Text.of "/", l⟩ ∧ Text.of ".." ∉ l) ∧
        (∀ l, l ∈ files ↔ ∃ d ∈ paths.map (resolved cwd), StandsFor t endings excluded d l) ∧
        ∀ paths' : List Text, (∀ path ∈ paths', t.Holds cwd path) →
          (∀ d, d ∈ paths'.map (resolved cwd) ↔ d ∈ paths.map (resolved cwd)) →
          discover t cwd endings excluded paths' = .ok files) ∧
    (∀ path path', Respells path path' → resolved cwd path = resolved cwd path') ∧
    ∀ before path after, paths = before ++ path :: after → (∀ p ∈ before, t.Holds cwd p) →
      ¬t.Holds cwd path →
      discover t cwd endings excluded paths = .error (.notFound (.parse path)) := by
  refine ⟨fun hpaths => ?_, fun path path' h => h.resolved_eq cwd, ?_⟩
  · obtain ⟨files, hfiles, hmem⟩ := mem_discover ht hendings excluded hpaths
    refine ⟨files, hfiles, pairwise_discover hfiles, fun l hl => ?_, hmem, ?_⟩
    · have hnames := ht.of_isFile (isFile_of_mem_discover hfiles hl)
      exact ⟨parse_toText hnames, fun hup => (hnames _ hup).2.2 rfl⟩
    · intro paths' hpaths' hsame
      obtain ⟨files', hfiles', hmem'⟩ := mem_discover ht hendings excluded hpaths'
      rw [hfiles', eq_of_pairwise_before (pairwise_discover hfiles') (pairwise_discover hfiles)]
      intro l
      rw [hmem', hmem]
      simp only [hsame]
  · rintro before path after rfl hbefore hpath
    exact discover_of_missing ht hendings excluded hbefore hpath

/-- A directory and a file inside it, spelled in two ways, and a path that is missing. -/
theorem discover_finds_exactly_two_spellings :
    let name := Text.of
    let t : FileTree := ⟨[([name "p", name "a.el"], .file []), ([name "p", name "note"], .file []),
      ([name "p", name ".git", name "b.el"], .file [])]⟩
    let paths := [name ".", name "note"]
    let found := discover t [name "p"] [name ".el"] [name ".git"]
    ∃ files, found paths = .ok files ∧ files.Pairwise Location.Before ∧
      resolved [name "p"] (name "..//p/./note") = resolved [name "p"] (name "../p/./note") ∧
      found [name "..//p/./note", name "/p", name "note"] = .ok files ∧
      found [name "note", name "c.el", name "d.el"] = .error (.notFound (.parse (name "c.el"))) := by
  intro name t paths found
  have ht : t.Proper := by decide +kernel
  have hendings : ∀ ending ∈ [name ".el"], IsEnding ending := by decide +kernel
  have hspelled : Respells (name "..//p/./note") (name "../p/./note") :=
    ⟨by decide, [name ".."], [[]], [name "p", name ".", name "note"], .empty, by decide, by decide⟩
  have hlocations : paths.map (resolved [name "p"]) = [[name "p"], [name "p", name "note"]] := by
    decide +kernel
  have hlocations' : [name "..//p/./note", name "/p", name "note"].map (resolved [name "p"]) =
      [[name "p", name "note"], [name "p"], [name "p", name "note"]] := by decide +kernel
  obtain ⟨hfinds, hspelling, _⟩ := discover_finds_exactly ht hendings [name "p"] [name ".git"] paths
  obtain ⟨_, _, hmissing⟩ := discover_finds_exactly ht hendings [name "p"] [name ".git"]
    [name "note", name "c.el", name "d.el"]
  obtain ⟨files, hfiles, hordered, _, _, hsame⟩ := hfinds (by decide +kernel)
  refine ⟨files, hfiles, hordered, hspelling _ _ hspelled, hsame _ (by decide +kernel) fun d => ?_, ?_⟩
  · rw [hlocations, hlocations']
    simp only [List.mem_cons, List.not_mem_nil, or_false]
    tauto
  · exact hmissing [name "note"] (name "c.el") [name "d.el"] rfl (by decide +kernel) (by decide +kernel)

end Corpus

end LispXref
