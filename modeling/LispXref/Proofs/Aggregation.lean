-- What a search over many files gathers. Main statements: the result is the fold of the
-- files' own matches, and passing over malformed files gives what a search of the other
-- files gives.
import LispXref.Proofs.Found
import LispXref.Proofs.Snags
import LispXref.Reading.SomeNames

namespace LispXref

open Reading

/-! ## Files on their own -/

namespace SourceFile

def isReadable [CharacterNames] (source : SourceFile) : Bool :=
  match readAll source.text with
  | .ok _ => true
  | .error _ => false

/-- The refusal of a malformed file, with its path. -/
def refusal? [CharacterNames] (source : SourceFile) : Option Skipped :=
  match readAll source.text with
  | .error (.malformed offset reason) => some ⟨source.path, offset, reason⟩
  | _ => none

/-- The fault that ends a search at a file. Under one policy a refusal is none. -/
def stop? [CharacterNames] (policy : Policy) (source : SourceFile) : Option FileFault :=
  match readAll source.text, policy with
  | .ok _, _ => none
  | .error (.malformed _ _), .skip => none
  | .error fault, _ => some ⟨source.path, fault⟩

/-- The matches in a file. A file that cannot be read has none. -/
def matchesOf [CharacterNames] (target : Symbol) (kind : Kind) (source : SourceFile) : List Match :=
  match searchText target kind source.text with
  | .ok ms => ms
  | .error _ => []

end SourceFile

/-- The files with a match, in order: the path of each and its matches. -/
def hits [CharacterNames] (target : Symbol) (kind : Kind) (files : List SourceFile) :
    List (Text × List Match) :=
  (files.map fun s => (s.path, s.matchesOf target kind)).filter fun hit => !hit.2.isEmpty

/-- The fault of a file that was passed over, had it ended the search. -/
def Skipped.fault (s : Skipped) : FileFault := ⟨s.path, .malformed s.offset s.reason⟩

section

variable {known : CharacterNames}

theorem SourceFile.stop?_abort (source : SourceFile)
    (h : ∀ fault, readAll source.text = .error fault → fault.Refuses) :
    source.stop? .abort = source.refusal?.map Skipped.fault := by
  unfold stop? refusal?
  cases hr : readAll source.text with
  | ok forms => rfl
  | error fault =>
    obtain ⟨offset, reason, rfl⟩ := h fault hr
    rfl

theorem SourceFile.stop?_skip (source : SourceFile)
    (h : ∀ fault, readAll source.text = .error fault → fault.Refuses) :
    source.stop? .skip = none := by
  unfold stop?
  cases hr : readAll source.text with
  | ok forms => rfl
  | error fault =>
    obtain ⟨offset, reason, rfl⟩ := h fault hr
    rfl

theorem SourceFile.stop?_of_isReadable {source : SourceFile} (h : source.isReadable = true)
    (policy : Policy) : source.stop? policy = none := by
  unfold isReadable at h
  unfold stop?
  cases hr : readAll source.text with
  | ok forms => rfl
  | error fault =>
    rw [hr] at h
    cases h

theorem SourceFile.matchesOf_of_not_isReadable {source : SourceFile} (h : source.isReadable = false)
    (target : Symbol) (kind : Kind) : source.matchesOf target kind = [] := by
  unfold isReadable at h
  cases hr : readAll source.text with
  | ok forms =>
    rw [hr] at h
    cases h
  | error fault =>
    unfold matchesOf
    rw [searchText_eq_error_iff.2 hr]

theorem SourceFile.isReadable_of_refusal? {source : SourceFile} {s : Skipped}
    (h : source.refusal? = some s) : source.isReadable = false := by
  unfold refusal? at h
  unfold isReadable
  split at h
  · rename_i hr
    rw [hr]
  · cases h

/-- What becomes of a file follows from reading it. -/
theorem searchFile_eq (policy : Policy) (target : Symbol) (kind : Kind) (source : SourceFile) :
    searchFile policy target kind source = match source.stop? policy with
      | some f => .aborted f
      | none => match source.refusal? with
        | some s => .skipped s
        | none => .matched (source.matchesOf target kind) := by
  unfold searchFile SourceFile.stop? SourceFile.refusal? SourceFile.matchesOf
  cases hr : readAll source.text with
  | ok forms =>
    cases hs : searchText target kind source.text with
    | ok ms => rfl
    | error fault =>
      rw [searchText_eq_error_iff.1 hs] at hr
      cases hr
  | error fault =>
    rw [searchText_eq_error_iff.2 hr]
    cases fault <;> cases policy <;> rfl

/-! ## The loop -/

section Loop

variable (settings : Settings) (target : Symbol) (kind : Kind)

/-- A search ends at the first file whose fault stops it. -/
theorem searchFrom_fault (total done : Nat) (files : List SourceFile) (tally : Tally) :
    (searchFrom settings target kind total done files tally).fault =
      files.findSome? (SourceFile.stop? settings.policy) := by
  induction files generalizing done tally with
  | nil => rfl
  | cons source rest ih =>
    rw [searchFrom, searchFile_eq, List.findSome?_cons]
    cases hstop : source.stop? settings.policy with
    | some f => rfl
    | none =>
      cases hrefusal : source.refusal? with
      | some s => exact ih _ _
      | none => exact ih _ _

theorem hits_append (files more : List SourceFile) :
    hits target kind (files ++ more) = hits target kind files ++ hits target kind more := by
  simp [hits]

theorem hits_of_not_isReadable {source : SourceFile} (h : source.isReadable = false) :
    hits target kind [source] = [] := by
  simp [hits, SourceFile.matchesOf_of_not_isReadable h]

theorem Tally.found_record (t : Tally) (source : SourceFile) :
    (t.record source.path (source.matchesOf target kind)).found =
      (hits target kind [source]).foldl Found.keep t.found := by
  by_cases hempty : (source.matchesOf target kind).isEmpty = true
  · simp [hits, record, hempty]
  · simp [hits, record, hempty, Found.keep]

/-- One turn of the loop: a file that does not end the search adds its matches, or it is
passed over. -/
theorem searchFrom_step {source : SourceFile} (h : source.stop? settings.policy = none)
    (total done : Nat) (rest : List SourceFile) (tally : Tally) :
    ∃ next : Tally, searchFrom settings target kind total done (source :: rest) tally =
        searchFrom settings target kind total (done + 1) rest next ∧
      next.found = (hits target kind [source]).foldl Found.keep tally.found ∧
      next.skipped = tally.skipped ++ source.refusal?.toList := by
  rw [searchFrom, searchFile_eq, h]
  cases hrefusal : source.refusal? with
  | some s =>
    rw [hits_of_not_isReadable target kind (SourceFile.isReadable_of_refusal? hrefusal)]
    refine ⟨_, rfl, ?_, ?_⟩ <;> split <;> rfl
  | none =>
    rw [← Tally.found_record, Option.toList_none, List.append_nil]
    refine ⟨_, rfl, ?_, ?_⟩
    · split <;> rfl
    · have hrecord : ∀ path ms, (tally.record path ms).skipped = tally.skipped := by
        intro path ms
        unfold Tally.record
        split <;> rfl
      split
      · exact hrecord _ _
      · exact hrecord _ _

/-- A search that no fault ends keeps the matches of every file and passes over the refused
ones. -/
theorem searchFrom_tally (total done : Nat) (files : List SourceFile) (tally : Tally)
    (h : files.findSome? (SourceFile.stop? settings.policy) = none) :
    (searchFrom settings target kind total done files tally).tally.found =
        (hits target kind files).foldl Found.keep tally.found ∧
      (searchFrom settings target kind total done files tally).tally.skipped =
        tally.skipped ++ files.filterMap SourceFile.refusal? := by
  induction files generalizing done tally with
  | nil => exact ⟨rfl, (List.append_nil _).symm⟩
  | cons source rest ih =>
    rw [List.findSome?_eq_none_iff, List.forall_mem_cons, ← List.findSome?_eq_none_iff] at h
    obtain ⟨next, hstep, hfound, hskipped⟩ :=
      searchFrom_step settings target kind h.1 total done rest tally
    obtain ⟨hfound', hskipped'⟩ := ih (done + 1) next h.2
    rw [hstep]
    constructor
    · rw [hfound', hfound, ← List.foldl_append, ← hits_append, List.singleton_append]
    · rw [hskipped', hskipped, List.append_assoc]
      cases hrefusal : source.refusal? with
      | some s => rw [List.filterMap_cons_some hrefusal, Option.toList_some, List.singleton_append]
      | none => rw [List.filterMap_cons_none hrefusal, Option.toList_none, List.nil_append]

/-- What a search gives back, from the files on their own. -/
theorem search_result (pathStart : Option Text) (files : List SourceFile) :
    (search settings target kind pathStart files).result =
      match (selectFiles pathStart files).findSome? (SourceFile.stop? settings.policy) with
      | some f => .error f
      | none => .ok (.ofHits (hits target kind (selectFiles pathStart files))) := by
  unfold search Run.result
  simp only [searchFrom_fault]
  cases hstop : (selectFiles pathStart files).findSome? (SourceFile.stop? settings.policy) with
  | some f => rfl
  | none =>
    simp only [(searchFrom_tally settings target kind _ _ _ .empty hstop).1]
    rfl

end Loop

/-! ## The two policies -/

theorem hits_filter_isReadable (target : Symbol) (kind : Kind) (files : List SourceFile) :
    hits target kind (files.filter SourceFile.isReadable) = hits target kind files := by
  induction files with
  | nil => rfl
  | cons source rest ih =>
    rw [← List.singleton_append, hits_append target kind [source], ← ih]
    by_cases hread : source.isReadable = true
    · rw [List.singleton_append, List.filter_cons_of_pos hread, ← List.singleton_append, hits_append]
    · rw [List.singleton_append, List.filter_cons_of_neg hread,
        hits_of_not_isReadable target kind (by simpa using hread), List.nil_append]

theorem selectFiles_sublist (pathStart : Option Text) (files : List SourceFile) :
    (selectFiles pathStart files).Sublist files := by
  cases pathStart with
  | none => exact List.Sublist.refl files
  | some start => exact List.filter_sublist

theorem mem_of_mem_selectFiles {pathStart : Option Text} {files : List SourceFile}
    {source : SourceFile} (h : source ∈ selectFiles pathStart files) : source ∈ files :=
  (selectFiles_sublist pathStart files).subset h

/-- Where only malformed files cannot be read, the first of them ends a search that does not
pass over it. -/
theorem findSome?_stop?_abort {files : List SourceFile}
    (h : ∀ source ∈ files, ∀ fault, readAll source.text = .error fault → fault.Refuses) :
    files.findSome? (SourceFile.stop? .abort) =
      (files.findSome? SourceFile.refusal?).map Skipped.fault := by
  induction files with
  | nil => rfl
  | cons source rest ih =>
    rw [List.findSome?_cons, List.findSome?_cons, source.stop?_abort (h source List.mem_cons_self)]
    cases source.refusal? with
    | some s => rfl
    | none => exact ih fun s hs => h s (List.mem_cons_of_mem _ hs)

/-- Passing over malformed files finds what a search of the readable files finds, and
remembers the refusals in order, whatever the finder did before. A search that stops at
malformed files finds the same if there is none, and otherwise ends with the first
refusal. -/
theorem Finder.skip_agrees_with_abort (skipper aborter : Finder)
    (hskip : skipper.settings.policy = .skip) (habort : aborter.settings.policy = .abort)
    (target : Symbol) (kind : Kind) (pathStart : Option Text) (files : List SourceFile)
    (hfiles : ∀ source ∈ files, ∀ fault, readAll source.text = .error fault → fault.Refuses) :
    let selected := selectFiles pathStart files
    let refusals := selected.filterMap SourceFile.refusal?
    ∃ found,
      (skipper.search target kind pathStart files).1.result = .ok found ∧
      (aborter.search target kind none (selected.filter SourceFile.isReadable)).1.result =
        .ok found ∧
      (skipper.search target kind pathStart files).2.skipped = refusals ∧
      (aborter.search target kind pathStart files).1.result = match refusals with
        | [] => .ok found
        | s :: _ => .error s.fault := by
  intro selected refusals
  have hselected : ∀ source ∈ selected, ∀ fault, readAll source.text = .error fault →
      fault.Refuses := fun source hs => hfiles source (mem_of_mem_selectFiles hs)
  have hskips : selected.findSome? (SourceFile.stop? .skip) = none :=
    List.findSome?_eq_none_iff.2 fun source hs => source.stop?_skip (hselected source hs)
  have haborts : selected.findSome? (SourceFile.stop? .abort) = refusals.head?.map Skipped.fault := by
    rw [List.head?_filterMap]
    exact findSome?_stop?_abort hselected
  refine ⟨.ofHits (hits target kind selected), ?_, ?_, ?_, ?_⟩
  · unfold Finder.search
    simp only [search_result, hskip]
    rw [show (selectFiles pathStart files).findSome? _ = none from hskips]
  · have hreads : (selected.filter SourceFile.isReadable).findSome? (SourceFile.stop? .abort) = none :=
      List.findSome?_eq_none_iff.2 fun source hs =>
        SourceFile.stop?_of_isReadable (List.mem_filter.1 hs).2 .abort
    unfold Finder.search
    simp only [search_result, habort, selectFiles]
    rw [hreads, hits_filter_isReadable]
  · unfold Finder.search LispXref.search
    simp only
    rw [(searchFrom_tally _ target kind _ _ _ .empty (by rw [hskip]; exact hskips)).2]
    rfl
  · unfold Finder.search
    simp only [search_result, habort]
    rw [show (selectFiles pathStart files).findSome? _ = _ from haborts]
    cases refusals <;> rfl

end

open SomeNames

theorem Finder.skip_agrees_with_abort_one_refused :
    let skipper : Finder := ⟨⟨10, .skip, by decide⟩, [⟨Text.of "old.el", 3, .invalidDot⟩]⟩
    let aborter : Finder := .new ⟨1, .abort, by decide⟩
    let files : List SourceFile := [⟨Text.of "a.el", Text.of "(f)"⟩, ⟨Text.of "b.el", Text.of ")"⟩]
    ∃ found,
      (skipper.search (.named "f") .function none files).1.result = .ok found ∧
      (aborter.search (.named "f") .function none (files.filter SourceFile.isReadable)).1.result =
        .ok found ∧
      (skipper.search (.named "f") .function none files).2.skipped =
        [⟨Text.of "b.el", 0, .unexpectedCloser ')'⟩] ∧
      (aborter.search (.named "f") .function none files).1.result =
        .error ⟨Text.of "b.el", .malformed 0 (.unexpectedCloser ')')⟩ := by
  intro skipper aborter files
  have hread : readAll (Text.of "(f)") =
      .ok [⟨.list [.symbol (.named "f")], .ofNat 0 3, [⟨.named "f", 1, 1⟩]⟩] := by decide +kernel
  have hrefused : readAll (Text.of ")") = .error (.malformed 0 (.unexpectedCloser ')')) := by
    decide +kernel
  have hfiles : ∀ source ∈ files, ∀ fault, readAll source.text = .error fault → fault.Refuses := by
    simp only [files, List.forall_mem_cons, List.not_mem_nil, false_implies, implies_true, and_true,
      hread, hrefused]
    exact ⟨nofun, by rintro _ ⟨⟩; exact ⟨_, _, rfl⟩⟩
  have hrefusals : files.filterMap SourceFile.refusal? =
      [⟨Text.of "b.el", 0, .unexpectedCloser ')'⟩] := by
    simp [files, SourceFile.refusal?, hread, hrefused]
  obtain ⟨found, hskipped, hreadable, hlist, hfull⟩ := skip_agrees_with_abort skipper aborter rfl rfl
    (.named "f") .function none files hfiles
  simp only [selectFiles, hrefusals] at hreadable hlist hfull
  exact ⟨found, hskipped, hreadable, hlist, hfull⟩

/-! ## The mapping by path -/

theorem selectFiles_append (pathStart : Option Text) (files more : List SourceFile) :
    selectFiles pathStart (files ++ more) =
      selectFiles pathStart files ++ selectFiles pathStart more := by
  cases pathStart with
  | none => rfl
  | some start => exact List.filter_append files more

section

variable {known : CharacterNames}

theorem map_fst_hits_sublist (target : Symbol) (kind : Kind) (files : List SourceFile) :
    ((hits target kind files).map Prod.fst).Sublist (files.map SourceFile.path) := by
  have hpaths : (files.map fun s => (s.path, s.matchesOf target kind)).map Prod.fst =
      files.map SourceFile.path := List.map_map
  rw [← hpaths]
  exact List.filter_sublist.map Prod.fst

/-- Files of distinct paths keep all their matches. -/
theorem ofHits_hits (target : Symbol) (kind : Kind) {files : List SourceFile}
    (h : (files.map SourceFile.path).Nodup) :
    Found.ofHits (hits target kind files) = hits target kind files :=
  Found.foldl_of_nodup (h.sublist (map_fst_hits_sublist target kind files))

/-- A search gathers the matches of the selected files. The paths stand in the order of the
first file of each that has a match, and a path holds the matches of its last such file. So
distinct paths keep all matches under their own files, and what two parts of the files give
makes up what the whole gives. -/
theorem Finder.search_gathers (finder : Finder) (target : Symbol) (kind : Kind)
    (pathStart : Option Text) (files : List SourceFile) (found : Found)
    (h : (finder.search target kind pathStart files).1.result = .ok found) :
    let selected := selectFiles pathStart files
    found.paths = ((hits target kind selected).map Prod.fst).eraseDups ∧
    (∀ path, found.lookup path = (hits target kind selected).reverse.lookup path) ∧
    ((selected.map SourceFile.path).Nodup → found = hits target kind selected) ∧
    ∀ left right, files = left ++ right → ∃ foundLeft foundRight,
      (finder.search target kind pathStart left).1.result = .ok foundLeft ∧
      (finder.search target kind pathStart right).1.result = .ok foundRight ∧
      found = foundRight.foldl Found.keep foundLeft ∧
      ((selected.map SourceFile.path).Nodup → found = foundLeft ++ foundRight) := by
  intro selected
  unfold Finder.search at h ⊢
  simp only [search_result] at h ⊢
  cases hstop : selected.findSome? (SourceFile.stop? finder.settings.policy) with
  | some f =>
    rw [show (selectFiles pathStart files).findSome? _ = some f from hstop] at h
    cases h
  | none =>
    rw [show (selectFiles pathStart files).findSome? _ = none from hstop] at h
    cases h
    refine ⟨?_, ?_, ofHits_hits target kind, ?_⟩
    · exact Found.paths_foldl Found.nodup_paths_nil _
    · intro path
      rw [Found.ofHits, Found.lookup_foldl, List.append_nil]
    · rintro left right rfl
      have hsplit : selected = selectFiles pathStart left ++ selectFiles pathStart right :=
        selectFiles_append pathStart left right
      rw [hsplit, List.findSome?_append, Option.or_eq_none_iff] at hstop
      refine ⟨.ofHits (hits target kind (selectFiles pathStart left)),
        .ofHits (hits target kind (selectFiles pathStart right)), by rw [hstop.1], by rw [hstop.2], ?_, ?_⟩
      · rw [Found.foldl_ofHits, selectFiles_append, hits_append, Found.ofHits, List.foldl_append]
        rfl
      · intro hnodup
        have hparts := hnodup
        rw [hsplit, List.map_append, List.nodup_append] at hparts
        rw [ofHits_hits target kind hnodup, ofHits_hits target kind hparts.1,
          ofHits_hits target kind hparts.2.1, hsplit, hits_append]

end

theorem Finder.search_gathers_repeated_path :
    let finder : Finder := .new ⟨10, .skip, by decide⟩
    let files : List SourceFile := [⟨Text.of "a.el", Text.of "(f)"⟩, ⟨Text.of "b.el", Text.of "(f)"⟩,
      ⟨Text.of "a.el", Text.of "(g (f))"⟩]
    ∃ found, (finder.search (.named "f") .function none files).1.result = .ok found ∧
      found.paths = [Text.of "a.el", Text.of "b.el"] ∧
      found.lookup (Text.of "a.el") = some [⟨.ofNat 3 6, .list [.symbol (.named "f")]⟩] := by
  intro finder files
  have hcall : searchText (.named "f") .function (Text.of "(f)") =
      .ok [⟨.ofNat 0 3, .list [.symbol (.named "f")]⟩] := by decide +kernel
  have hinner : searchText (.named "f") .function (Text.of "(g (f))") =
      .ok [⟨.ofNat 3 6, .list [.symbol (.named "f")]⟩] := by decide +kernel
  have hhits : hits (.named "f") .function files =
      [(Text.of "a.el", [⟨.ofNat 0 3, .list [.symbol (.named "f")]⟩]),
        (Text.of "b.el", [⟨.ofNat 0 3, .list [.symbol (.named "f")]⟩]),
        (Text.of "a.el", [⟨.ofNat 3 6, .list [.symbol (.named "f")]⟩])] := by
    simp [hits, files, SourceFile.matchesOf, hcall, hinner]
  have hread : ∀ source ∈ files, source.isReadable = true := by decide +kernel
  have hstop : files.findSome? (SourceFile.stop? finder.settings.policy) = none :=
    List.findSome?_eq_none_iff.2 fun source hs => SourceFile.stop?_of_isReadable (hread source hs) _
  have hresult : (finder.search (.named "f") .function none files).1.result =
      .ok (.ofHits (hits (.named "f") .function files)) := by
    unfold Finder.search
    simp only [search_result, selectFiles]
    rw [hstop]
  obtain ⟨hpaths, hlookup, _⟩ := search_gathers finder _ _ _ files _ hresult
  refine ⟨_, hresult, hpaths.trans ?_, (hlookup _).trans ?_⟩
  · rw [show selectFiles none files = files from rfl, hhits]
    decide
  · rw [show selectFiles none files = files from rfl, hhits]
    rfl

end LispXref
