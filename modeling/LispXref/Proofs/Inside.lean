-- What a request for a place in the file system selects. Main statement: if the place is a
-- directory, exactly the files inside it, seen by the names on their way; otherwise the files
-- whose written path begins with the place.
import LispXref.Command.Run
import LispXref.Proofs.Selection

namespace LispXref

namespace Corpus

/-! ## Written directories -/

/-- What the paths of the files inside a directory begin with: the names of the directory,
each with a slash behind it. -/
def Location.interior (d : Location) : Text := Text.of "/" ++ d.flatMap (· ++ Text.of "/")

theorem Location.toText_concat (l : Location) (name : Text) :
    (l ++ [name]).toText = l.interior ++ name := by
  have hjoin : Text.join (Text.of "/") (l ++ [name]) = l.flatMap (· ++ Text.of "/") ++ name := by
    induction l with
    | nil => rfl
    | cons first l ih =>
      rw [List.cons_append, Text.join, ih, List.flatMap_cons]
      · simp
      · simp
  rw [toText, hjoin, interior, List.append_assoc]

theorem Location.toText_append_slash {d : Location} (h : d ≠ []) :
    d.toText ++ Text.of "/" = d.interior := by
  obtain ⟨l, name, rfl⟩ := (List.eq_nil_or_concat' d).resolve_left h
  rw [toText_concat]
  simp [interior]

/-- Names without a slash can be compared up to the slashes behind them. -/
theorem name_prefix {d n u v : Text} (hd : CodePoint.ofChar '/' ∉ d) (hn : CodePoint.ofChar '/' ∉ n)
    (h : d ++ CodePoint.ofChar '/' :: u <+: n ++ CodePoint.ofChar '/' :: v) : d = n ∧ u <+: v := by
  induction d generalizing n with
  | nil =>
    cases n with
    | nil => exact ⟨rfl, (List.cons_prefix_cons.1 h).2⟩
    | cons c n =>
      obtain ⟨rfl, _⟩ := List.cons_prefix_cons.1 h
      exact absurd List.mem_cons_self hn
  | cons c d ih =>
    cases n with
    | nil =>
      obtain ⟨rfl, _⟩ := List.cons_prefix_cons.1 h
      exact absurd List.mem_cons_self hd
    | cons b n =>
      obtain ⟨rfl, htail⟩ := List.cons_prefix_cons.1 h
      obtain ⟨rfl, huv⟩ := ih (fun hmem => hd (List.mem_cons_of_mem _ hmem))
        (fun hmem => hn (List.mem_cons_of_mem _ hmem)) htail
      exact ⟨rfl, huv⟩

/-- The text of a directory begins a path just if the directory is on the way of the path. -/
theorem Location.interior_prefix_iff {d l : Location} {name : Text} (hd : ∀ n ∈ d, IsName n)
    (hl : ∀ n ∈ l, IsName n) (hname : IsName name) :
    d.interior <+: (l ++ [name]).toText ↔ d <+: l := by
  rw [toText_concat, interior, interior, List.append_assoc, List.prefix_append_right_inj]
  induction d generalizing l with
  | nil => simp
  | cons first d ih =>
    obtain ⟨hfirst, hd⟩ := List.forall_mem_cons.1 hd
    rw [List.flatMap_cons, List.append_assoc]
    cases l with
    | nil =>
      -- The last name has no slash, so it does not go on behind a directory.
      refine iff_of_false (fun h => hname.2 (h.subset ?_)) (by simp)
      simp [Text.of]
    | cons n l =>
      obtain ⟨hn, hl⟩ := List.forall_mem_cons.1 hl
      rw [List.cons_prefix_cons, ← ih hd hl, List.flatMap_cons, List.append_assoc, List.append_assoc]
      constructor
      · exact name_prefix hfirst.2 hn.2
      · rintro ⟨rfl, h⟩
        rw [List.prefix_append_right_inj, List.prefix_append_right_inj]
        exact h

/-- What begins the names of a file and is not all of them begins the names before the last. -/
theorem Location.prefix_concat_and_ne_iff (d l : Location) (name : Text) :
    d <+: l ++ [name] ∧ d ≠ l ++ [name] ↔ d <+: l := by
  rw [List.prefix_concat_iff]
  constructor
  · rintro ⟨rfl | h, hne⟩
    · exact absurd rfl hne
    · exact h
  · intro h
    refine ⟨.inr h, ?_⟩
    rintro rfl
    have hlength := h.length_le
    rw [List.length_append, List.length_singleton] at hlength
    omega

/-- The location of a path is made of names. -/
theorem isName_of_mem_resolved {cwd : Location} (hcwd : ∀ name ∈ cwd, IsName name) (path : Text) :
    ∀ name ∈ resolved cwd path, IsName name := by
  have hparts : ∀ name ∈ (PathName.parse path).names, IsName name := by
    intro name hname
    obtain ⟨hsplit, hkept⟩ := List.mem_filter.1 hname
    rw [Bool.and_eq_true, Bool.not_eq_true', List.isEmpty_eq_false_iff] at hkept
    exact ⟨hkept.1, Text.not_mem_of_mem_splitAt hsplit⟩
  have hsteps : ∀ (names : List Text) (l : Location), (∀ name ∈ names, IsName name) →
      (∀ name ∈ l, IsName name) → ∀ name ∈ names.foldl PathName.step l, IsName name := by
    intro names
    induction names with
    | nil => exact fun l _ hl => hl
    | cons first names ih =>
      intro l hnames hl
      obtain ⟨hfirst, hnames⟩ := List.forall_mem_cons.1 hnames
      refine ih _ hnames fun name hname => ?_
      unfold PathName.step at hname
      split at hname
      · exact hl name ((List.dropLast_prefix l).subset hname)
      · rcases List.mem_append.1 hname with hname | hname
        · exact hl name hname
        · rw [List.mem_singleton.1 hname]
          exact hfirst
  refine hsteps _ _ hparts fun name hname => ?_
  unfold PathName.origin at hname
  split at hname
  · exact hcwd name hname
  · cases hname

end Corpus

namespace Command

open Corpus

/-! ## Requests for a place -/

theorem absoluteStart_of_directory {w : World} {start : Text}
    (h : w.tree.isDirectory (resolved w.cwd start) = true) :
    absoluteStart w start = (resolved w.cwd start).interior := by
  have hstart : absoluteStart w start =
      if w.tree.isDirectory (resolved w.cwd start) && !(resolved w.cwd start).isEmpty then
        (resolved w.cwd start).toText ++ Text.of "/"
      else (resolved w.cwd start).toText := rfl
  rw [hstart, h]
  by_cases hroot : resolved w.cwd start = []
  · rw [hroot]
    rfl
  · rw [List.isEmpty_eq_false_iff.2 hroot]
    exact Location.toText_append_slash hroot

theorem absoluteStart_of_not_directory {w : World} {start : Text}
    (h : w.tree.isDirectory (resolved w.cwd start) = false) :
    absoluteStart w start = (resolved w.cwd start).toText := by
  unfold absoluteStart
  exact if_neg (by simp [show w.tree.isDirectory ((PathName.parse start).resolve w.cwd) = false from h])

/-- A request for a place, however it is written, selects by the written path of a file. If
there is a directory at the place, these are the files inside it: the names of the directory
begin the names of the file, and more follow. If there is none, these are the files whose path
begins with the path of the place. -/
theorem requestedStart_selects_inside (w : World) (hcwd : ∀ name ∈ w.cwd, IsName name)
    {request : SearchRequest} {start : Text} (hstart : request.pathStart = some start)
    (hne : start ≠ []) {l : Location} (hfile : l ≠ []) (hl : ∀ name ∈ l, IsName name) :
    let d := resolved w.cwd start
    (∀ (files : List SourceFile) (f : SourceFile), f.path = l.toText →
      (f ∈ selectFiles (requestedStart w request) files ↔
        f ∈ files ∧ absoluteStart w start <+: l.toText)) ∧
    (w.tree.isDirectory d = true → (absoluteStart w start <+: l.toText ↔ d <+: l ∧ d ≠ l)) ∧
    (w.tree.isDirectory d = false → (absoluteStart w start <+: l.toText ↔ d.toText <+: l.toText)) := by
  intro d
  have hd := isName_of_mem_resolved hcwd start
  refine ⟨fun files f hpath => ?_, fun hdir => ?_, fun hdir => ?_⟩
  · have hrequested : requestedStart w request = some (absoluteStart w start) := by
      unfold requestedStart
      rw [hstart, Option.filter_some_pos (by simp [hne])]
      rfl
    rw [hrequested, selectFiles, List.mem_filter, hpath, Text.startsWith, List.isPrefixOf_iff_prefix]
  · obtain ⟨front, last, rfl⟩ := (List.eq_nil_or_concat' l).resolve_left hfile
    rw [absoluteStart_of_directory hdir, Location.interior_prefix_iff hd
      (fun name hname => hl name (List.mem_append_left _ hname)) (hl last (by simp))]
    exact (Location.prefix_concat_and_ne_iff d front last).symm
  · rw [absoluteStart_of_not_directory hdir]

/-- A directory that is written in a roundabout way, beside another one whose name goes on
from its own. -/
theorem requestedStart_selects_inside_beside :
    let name := Text.of
    let inner : Location := [name "p", name "lisp", name "a.el"]
    let outer : Location := [name "p", name "lisp2", name "a.el"]
    let w : World := ⟨⟨[(inner, .file []), (outer, .file [])]⟩, [name "p"], .empty, none, false⟩
    let request : SearchRequest := ⟨.fixed .function, name "f", [], some (name "./x/..//lisp/"), false, 0⟩
    let files : List SourceFile := [⟨inner.toText, []⟩, ⟨outer.toText, []⟩]
    ⟨inner.toText, []⟩ ∈ selectFiles (requestedStart w request) files ∧
      ⟨outer.toText, []⟩ ∉ selectFiles (requestedStart w request) files := by
  intro name inner outer w request files
  have hcwd : ∀ n ∈ w.cwd, IsName n := by decide +kernel
  have hdir : w.tree.isDirectory (resolved w.cwd (name "./x/..//lisp/")) = true := by decide +kernel
  obtain ⟨hinner, hinside, _⟩ := @requestedStart_selects_inside w hcwd request _ rfl (by decide)
    inner (by decide) (by decide +kernel)
  obtain ⟨houter, hbeside, _⟩ := @requestedStart_selects_inside w hcwd request _ rfl (by decide)
    outer (by decide) (by decide +kernel)
  constructor
  · exact (hinner files _ rfl).2 ⟨List.mem_cons_self, (hinside hdir).2 (by decide +kernel)⟩
  · intro h
    exact absurd ((hbeside hdir).1 ((houter files _ rfl).1 h).2) (by decide +kernel)

end Command

end LispXref
