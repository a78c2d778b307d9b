-- Glyphs in reports. Main statement: where escaping adds only backslashes, and the terminal gets
-- stand-ins for glyphs, messages, titles and source code are free of them, and a cell of a table
-- has one just if its match is shortened.
import LispXref.Proofs.Display
import LispXref.Proofs.TagConsole
import LispXref.Reading.SomeNames

namespace LispXref

/-! ## Parts of texts -/

theorem Text.mem_substitute {d g : CodePoint} {t r : Text} (h : d ∈ t.substitute g r) :
    d ∈ t ∧ d ≠ g ∨ d ∈ r := by
  obtain ⟨c, hc, hd⟩ := List.mem_flatMap.1 h
  split at hd
  · exact .inr hd
  · rename_i hne
    obtain rfl := List.mem_singleton.1 hd
    exact .inl ⟨hc, hne⟩

theorem Text.subset_of_mem_splitAt {separator : CodePoint} {t part : Text}
    (h : part ∈ splitAt separator t) : part ⊆ t := by
  induction t generalizing part with
  | nil => simp_all [splitAt]
  | cons c t ih =>
    unfold splitAt at h
    split at h
    · rcases List.mem_cons.1 h with rfl | h
      · exact List.nil_subset _
      · exact List.subset_cons_of_subset c (ih h)
    · split at h
      · rw [List.mem_singleton.1 h]
        simp
      · rename_i first parts hsplit
        rw [hsplit] at ih
        rcases List.mem_cons.1 h with rfl | h
        · exact List.cons_subset_cons c (ih List.mem_cons_self)
        · exact List.subset_cons_of_subset c (ih (List.mem_cons_of_mem _ h))

theorem slice_subset {α : Type} (xs : List α) (start stop : Int) : slice xs start stop ⊆ xs :=
  fun _ h => List.mem_of_mem_take (List.mem_of_mem_drop h)

namespace LineIndex

variable {ix : LineIndex}

theorem subset_of_lineText? {line : Int} {t : Text} (h : ix.lineText? line = some t) :
    t ⊆ ix.text := by
  obtain ⟨start, _, h⟩ := Option.bind_eq_some_iff.1 h
  dsimp only at h
  split at h
  all_goals
    obtain ⟨stop, _, h⟩ := Option.bind_eq_some_iff.1 h
    cases h
    exact slice_subset ix.text start stop

theorem subset_of_mem_mapM_lineText? {low : Int} {is : List Nat} {lines : List (Int × Text)}
    (h : is.mapM (fun (i : Nat) => do return (low + i, ← ix.lineText? (low + i))) = some lines) :
    ∀ line ∈ lines, line.2 ⊆ ix.text := by
  induction is generalizing lines with
  | nil =>
    cases h
    nofun
  | cons i is ih =>
    rw [List.mapM_cons] at h
    obtain ⟨first, hfirst, h⟩ := Option.bind_eq_some_iff.1 h
    obtain ⟨rest, hrest, h⟩ := Option.bind_eq_some_iff.1 h
    obtain ⟨t, ht, hpair⟩ := Option.bind_eq_some_iff.1 hfirst
    cases h
    cases hpair
    exact List.forall_mem_cons.2 ⟨subset_of_lineText? ht, ih hrest⟩

/-- The lines around a span are lines of the text. -/
theorem subset_of_mem_context? (start stop around : Int) :
    ∀ line ∈ (ix.context? start stop around).getD [], line.2 ⊆ ix.text := by
  cases h : ix.context? start stop around with
  | none => nofun
  | some lines => exact subset_of_mem_mapM_lineText? h

end LineIndex

/-! ## Texts without glyphs -/

namespace Terminal

/-- Whether a code point is one of the glyphs. -/
def isIcon (c : CodePoint) : Bool := icons.any fun icon => decide (icon.1 = c)

/-- Whether a text has a glyph. -/
def hasIcon (t : Text) : Bool := t.any isIcon

theorem isIcon_iff {c : CodePoint} : isIcon c = true ↔ ∃ icon ∈ icons, icon.1 = c := by
  simp [isIcon]

theorem hasIcon_eq_false_iff {t : Text} : hasIcon t = false ↔ ∀ c ∈ t, isIcon c = false := by
  simp [hasIcon]

@[simp] theorem hasIcon_append (u v : Text) : hasIcon (u ++ v) = (hasIcon u || hasIcon v) :=
  List.any_append

theorem hasIcon_of_subset {u t : Text} (h : u ⊆ t) (ht : hasIcon t = false) : hasIcon u = false :=
  hasIcon_eq_false_iff.2 fun c hc => hasIcon_eq_false_iff.1 ht c (h hc)

/-- Each replacement removes its glyph, and brings back none that is already replaced. -/
theorem mem_of_mem_foldl_substitute {gs : List (CodePoint × Text)} (hgs : ∀ g ∈ gs, hasIcon g.2 = false)
    {t : Text} {d : CodePoint} (h : d ∈ gs.foldl (fun t g => t.substitute g.1 g.2) t)
    (hd : isIcon d = true) : d ∈ t ∧ ∀ g ∈ gs, g.1 ≠ d := by
  induction gs generalizing t with
  | nil => exact ⟨h, nofun⟩
  | cons g gs ih =>
    obtain ⟨hg, hgs⟩ := List.forall_mem_cons.1 hgs
    obtain ⟨hmem, hrest⟩ := ih hgs h
    rcases Text.mem_substitute hmem with ⟨ht, hne⟩ | hr
    · exact ⟨ht, List.forall_mem_cons.2 ⟨hne.symm, hrest⟩⟩
    · rw [hasIcon_eq_false_iff.1 hg d hr] at hd
      cases hd

/-- Stand-ins leave no glyph. -/
@[simp] theorem hasIcon_replaceIcons (t : Text) : hasIcon (replaceIcons t) = false := by
  refine hasIcon_eq_false_iff.2 fun c hc => Bool.eq_false_iff.2 fun hicon => ?_
  have hplain : ∀ icon ∈ icons, hasIcon icon.2 = false := by decide
  obtain ⟨_, hne⟩ := mem_of_mem_foldl_substitute hplain hc hicon
  obtain ⟨icon, hmem, heq⟩ := isIcon_iff.1 hicon
  exact hne icon hmem heq

/-! ## Pieces of reports -/

theorem isIcon_of_isDecimalDigit {c : CodePoint} (h : c.isDecimalDigit = true) : isIcon c = false := by
  refine Bool.eq_false_iff.2 fun hicon => ?_
  have hdigits : ∀ icon ∈ icons, icon.1.isDecimalDigit = false := by decide
  obtain ⟨icon, hmem, rfl⟩ := isIcon_iff.1 hicon
  rw [hdigits icon hmem] at h
  cases h

@[simp] theorem hasIcon_ofNat (n : Nat) : hasIcon (Text.ofNat n) = false :=
  hasIcon_eq_false_iff.2 fun c hc => isIcon_of_isDecimalDigit (Text.isDecimalDigit_of_mem_ofNat n c hc)

@[simp] theorem hasIcon_ofInt (n : Int) : hasIcon (Text.ofInt n) = false := by
  cases n with
  | ofNat n => exact hasIcon_ofNat n
  | negSucc n => exact hasIcon_ofNat (n + 1)

theorem hasIcon_backslashed {t e : Text} (h : Console.Backslashed t e) : hasIcon e = hasIcon t := by
  induction h with
  | nil => rfl
  | keep c h ih => exact congrArg (isIcon c || ·) ih
  | add h ih => exact ih

/-- Escaping adds no glyph and removes none. -/
theorem hasIcon_escape {console : Console} (hescape : console.EscapesTags) (t : Text) :
    hasIcon (console.escape t) = hasIcon t := hasIcon_backslashed (hescape.backslashed t)

theorem hasIcon_join {separator : Text} {ts : List Text} (hs : hasIcon separator = false)
    (h : ∀ t ∈ ts, hasIcon t = false) : hasIcon (Text.join separator ts) = false := by
  fun_induction Text.join separator ts with
  | case1 => rfl
  | case2 t => exact h t List.mem_cons_self
  | case3 t ts _ ih =>
    obtain ⟨ht, hts⟩ := List.forall_mem_cons.1 h
    rw [hasIcon_append, hasIcon_append, ht, hs, ih hts]
    rfl

theorem hasIcon_displayPath {path : Text} (cwd : Corpus.Location) (h : hasIcon path = false) :
    hasIcon (Corpus.displayPath cwd path) = false := by
  unfold Corpus.displayPath
  dsimp only
  split
  · unfold Corpus.PathName.toText
    split
    · decide
    · refine hasIcon_join (by decide) fun name hname => ?_
      obtain ⟨hname, _⟩ := List.mem_filter.1 (List.mem_of_mem_drop hname)
      exact hasIcon_of_subset (Text.subset_of_mem_splitAt hname) h
  · exact h

end Terminal

open Terminal

/-! ## Snippets -/

/-- Whether a match does not fit into a cell: it goes on behind its first line, or is wider
than a snippet. -/
def Match.isShortened (text : Text) (m : Match) : Bool :=
  let piece := slice text m.span.start m.span.stop
  decide (CodePoint.ofChar '\n' ∈ piece) || decide (snippetWidth < piece.length)

/-- The snippet of a text without glyphs has a glyph just if the match is shortened. -/
theorem hasIcon_snippet {text : Text} (h : hasIcon text = false) (m : Match) :
    hasIcon (snippet text m.span.start m.span.stop snippetWidth) = m.isShortened text := by
  unfold snippet Match.isShortened
  dsimp only
  generalize hpiece : slice text m.span.start m.span.stop = piece
  have hplain : hasIcon piece = false := hasIcon_of_subset (hpiece ▸ slice_subset _ _ _) h
  have hellipsis : ∀ u : Text, ellipsis ∈ u → hasIcon u = true :=
    fun u hu => List.any_eq_true.2 ⟨ellipsis, hu, by decide⟩
  by_cases hbreak : CodePoint.ofChar '\n' ∈ piece
  · have hshort : (piece.takeWhile (· ≠ CodePoint.ofChar '\n')).length < piece.length := by
      have hfront : piece.takeWhile (· ≠ CodePoint.ofChar '\n') <+: piece := List.takeWhile_prefix _
      refine Nat.lt_of_le_of_ne hfront.length_le fun hlen => ?_
      have hall := List.takeWhile_eq_self_iff.1 (hfront.eq_of_length hlen) _ hbreak
      exact of_decide_eq_true hall rfl
    rw [if_pos hshort, decide_eq_true hbreak, Bool.true_or]
    refine hellipsis _ ?_
    split <;> simp
  · have hline : piece.takeWhile (· ≠ CodePoint.ofChar '\n') = piece := by
      refine List.takeWhile_eq_self_iff.2 fun c hc => decide_eq_true ?_
      rintro rfl
      exact hbreak hc
    rw [hline, if_neg (Nat.lt_irrefl _), decide_eq_false hbreak, Bool.false_or]
    split
    · rename_i hwide
      rw [decide_eq_true hwide]
      exact hellipsis _ (by simp)
    · rename_i hwide
      rw [decide_eq_false hwide, hplain]

namespace Command

section

variable {console : Console}

/-! ## Printed things -/

/-- A row of the table of a file. Its last cell has a glyph just if the match is shortened. -/
def GlyphIfShortened [Console] (sources : List SourceFile) (row : Int × Int × Text) : Prop :=
  hasIcon (Text.ofInt row.1) = false ∧ hasIcon (Text.ofInt row.2.1) = false ∧
    ∃ source ∈ sources, ∃ m : Match, row = matchRow (.ofText source.text) m ∧
      hasIcon row.2.2 = m.isShortened source.text

/-- Glyphs stand in the cells of shortened matches, and nowhere else. -/
def Printed.GlyphsInCells [Console] (sources : List SourceFile) : Printed → Prop
  | .line text => hasIcon text = false
  | .table title rows => hasIcon title = false ∧ ∀ row ∈ rows, GlyphIfShortened sources row
  | .panel title code _ _ => hasIcon title = false ∧ hasIcon code = false

/-- Neither the path nor the text has a glyph. -/
def WithoutGlyphs (source : SourceFile) : Prop :=
  hasIcon source.path = false ∧ hasIcon source.text = false

section Reports

variable {sources : List SourceFile}

/-- Messages are shown with stand-ins, whatever they say. -/
theorem glyphsInCells_line (text : Text) : (Printed.line text).sanitize.GlyphsInCells sources :=
  hasIcon_replaceIcons text

theorem glyphIfShortened_matchRow (hescape : console.EscapesTags) {source : SourceFile}
    (hmem : source ∈ sources) (h : WithoutGlyphs source) (m : Match) :
    GlyphIfShortened sources (matchRow (.ofText source.text) m) := by
  refine ⟨hasIcon_ofInt _, hasIcon_ofInt _, source, hmem, m, rfl, ?_⟩
  exact (hasIcon_escape hescape _).trans (hasIcon_snippet h.2 m)

theorem glyphsInCells_matchPanel (hescape : console.EscapesTags) {source : SourceFile}
    (h : WithoutGlyphs source) (cwd : Corpus.Location) (context : Nat) (m : Match) :
    (matchPanel (.ofText source.text) (Corpus.displayPath cwd source.path) context m).GlyphsInCells
      sources := by
  constructor
  · refine (hasIcon_escape hescape _).trans ?_
    simp only [hasIcon_append, hasIcon_displayPath cwd h.1, hasIcon_ofInt]
    decide
  · refine hasIcon_join (by decide) fun t ht => ?_
    obtain ⟨line, hline, rfl⟩ := List.mem_map.1 ht
    exact hasIcon_of_subset (LineIndex.subset_of_mem_context? _ _ _ line hline) h.2

theorem glyphsInCells_of_mem_reportFile (hescape : console.EscapesTags) {source : SourceFile}
    (hmem : source ∈ sources) (h : WithoutGlyphs source) {cwd : Corpus.Location} {context : Nat}
    {ms : List Match} {item : Printed}
    (hitem : item ∈ reportFile (Corpus.displayPath cwd source.path) source.text context ms) :
    item.sanitize.GlyphsInCells sources := by
  unfold reportFile at hitem
  dsimp only at hitem
  split at hitem
  · obtain ⟨m, _, rfl⟩ := List.mem_map.1 hitem
    exact glyphsInCells_matchPanel hescape h cwd context m
  · rw [List.mem_singleton.1 hitem]
    refine ⟨(hasIcon_escape hescape _).trans (hasIcon_displayPath cwd h.1), fun row hrow => ?_⟩
    obtain ⟨m, _, rfl⟩ := List.mem_map.1 hrow
    exact glyphIfShortened_matchRow hescape hmem h m

theorem glyphsInCells_of_mem_report (hescape : console.EscapesTags)
    (h : ∀ source ∈ sources, WithoutGlyphs source)
    {cwd : Corpus.Location} {context : Nat} {kind : Kind} {symbol : Text} {tally : Tally}
    {item : Printed} (hitem : item ∈ report cwd sources context kind symbol tally) :
    item.sanitize.GlyphsInCells sources := by
  unfold report at hitem
  rw [List.mem_append, List.mem_append, List.mem_singleton] at hitem
  rcases hitem with (hitem | hitem) | rfl
  · obtain ⟨⟨path, ms⟩, _, hitem⟩ := List.mem_flatMap.1 hitem
    dsimp only at hitem
    split at hitem
    · rename_i source hfind
      have hmem := List.mem_of_find?_eq_some hfind
      obtain rfl : source.path = path := by simpa using List.find?_some hfind
      exact glyphsInCells_of_mem_reportFile hescape hmem (h source hmem) hitem
    · cases hitem
  · obtain ⟨skipped, _, rfl⟩ := List.mem_map.1 hitem
    exact glyphsInCells_line _
  · unfold summary
    dsimp only
    split <;> exact glyphsInCells_line _

end Reports

/-! ## Runs -/

/-- The files of a run, none if it cannot find them. -/
def loaded (w : World) (request : SearchRequest) : List SourceFile :=
  (runSources w request).toOption.getD []

variable {known : CharacterNames}

theorem glyphsInCells_of_mem_runSearch (hescape : console.EscapesTags) {w : World} {kind : Kind}
    {request : SearchRequest} (h : ∀ source ∈ loaded w request, WithoutGlyphs source)
    {item : Printed} (hitem : item ∈ (runSearch w kind request).printed) :
    item.sanitize.GlyphsInCells (loaded w request) := by
  have herror : ∀ label message, item ∈ [reportError label message] →
      item.sanitize.GlyphsInCells (loaded w request) := by
    intro label message hmem
    rw [List.mem_singleton.1 hmem]
    exact glyphsInCells_line _
  unfold runSearch at hitem
  cases hsettings : runSettings w request with
  | error e =>
    rw [hsettings] at hitem
    exact herror _ _ hitem
  | ok settings =>
    rw [hsettings] at hitem
    cases hsources : runSources w request with
    | error e =>
      rw [hsources] at hitem
      cases e with
      | notFound path => exact herror _ _ hitem
      | pattern e => cases hitem
    | ok sources =>
      have hloaded : loaded w request = sources := by rw [loaded, hsources]; rfl
      rw [hloaded] at h ⊢
      rw [hsources] at hitem
      dsimp only at hitem
      split at hitem
      · exact glyphsInCells_of_mem_report hescape h hitem
      · simp only [Ending.exit, reportAborted, List.mem_cons, List.not_mem_nil, or_false] at hitem
        rcases hitem with rfl | rfl
        all_goals exact glyphsInCells_line _
      · cases hitem

theorem glyphsInCells_of_mem_runNamed (hescape : console.EscapesTags) {w : World} {name : Text}
    {request : SearchRequest} (h : ∀ source ∈ loaded w request, WithoutGlyphs source)
    {item : Printed} (hitem : item ∈ (runNamed w name request).printed) :
    item.sanitize.GlyphsInCells (loaded w request) := by
  unfold runNamed at hitem
  split at hitem
  · exact glyphsInCells_of_mem_runSearch hescape h hitem
  · rw [List.mem_singleton.1 hitem]
    exact glyphsInCells_line _

theorem glyphsInCells_of_mem_runRequest (hescape : console.EscapesTags) {w : World}
    {request : SearchRequest} (h : ∀ source ∈ loaded w request, WithoutGlyphs source)
    {item : Printed} (hitem : item ∈ (runRequest w request).printed) :
    item.sanitize.GlyphsInCells (loaded w request) := by
  unfold runRequest at hitem
  split at hitem
  · exact glyphsInCells_of_mem_runSearch hescape h hitem
  · exact glyphsInCells_of_mem_runNamed hescape h hitem
  · split at hitem
    · exact glyphsInCells_of_mem_runNamed hescape h hitem
    · cases hitem

/-- A search that shows stand-ins, of files without glyphs, still shows a glyph in the cell of
every shortened match, and shows no other one. -/
theorem respond_glyphsInCells (hescape : console.EscapesTags) {w : World} {request : SearchRequest}
    (hsanitizes : w.sanitizes = true) (h : ∀ source ∈ loaded w request, WithoutGlyphs source) :
    ∀ item ∈ (respond w (.search request)).printed, item.GlyphsInCells (loaded w request) := by
  intro item hitem
  unfold respond at hitem
  rw [hsanitizes] at hitem
  obtain ⟨original, horiginal, rfl⟩ := List.mem_map.1 hitem
  exact glyphsInCells_of_mem_runRequest hescape h horiginal

end

open scoped SomeNames TagConsole

theorem respond_glyphsInCells_two_calls :
    let w : World := ⟨⟨[([Text.of "a.el"], .file [40, 102, 10, 32, 120, 41, 32, 40, 102, 41]),
      ([Text.of "b.el"], .file [41])]⟩, [], .empty, none, true⟩
    let request : SearchRequest := ⟨.fixed .function, Text.of "f", [], none, true, 0⟩
    let files : List SourceFile :=
      [⟨Text.of "/a.el", Text.of "(f\n x) (f)"⟩, ⟨Text.of "/b.el", Text.of ")"⟩]
    (respond w (.search request)).printed =
        [.table (Text.of "a.el") [(1, 1, Text.of "(f …"), (2, 5, Text.of "(f)")],
        .line (Text.of "[yellow][WARN] Skipped[/yellow] b.el (offset 0: unexpected ')')"),
        .line (Text.of "\n[bold green][OK] Found 2 function references to f in 1 file[/bold green]"
          ++ Text.of " [dim](searched 2)[/dim]")] ∧
      ∀ item ∈ (respond w (.search request)).printed, item.GlyphsInCells files := by
  intro w request files
  have hloaded : loaded w request = files := by decide +kernel
  have hfiles : ∀ source ∈ files, hasIcon source.path = false ∧ hasIcon source.text = false := by
    decide +kernel
  refine ⟨by decide +kernel, ?_⟩
  rw [← hloaded] at hfiles ⊢
  exact respond_glyphsInCells TagConsole.escapesTags_console rfl hfiles

/-- A call on two lines is shown with an ellipsis, which is a glyph, although a stand-in is
called for. -/
theorem respond_shows_ellipsis :
    let w : World := ⟨⟨[([Text.of "a.el"], .file [40, 102, 10, 32, 120, 41])]⟩, [], .empty, none, true⟩
    let request : SearchRequest := ⟨.fixed .function, Text.of "f", [], none, false, 0⟩
    let source : SourceFile := ⟨Text.of "/a.el", Text.of "(f\n x)"⟩
    loaded w request = [source] ∧
      hasIcon request.symbol = false ∧ hasIcon source.path = false ∧ hasIcon source.text = false ∧
      (respond w (.search request)).printed = [.table (Text.of "a.el") [(1, 1, Text.of "(f …")],
        .line (Text.of "\n[bold green][OK] Found 1 function reference to f in 1 file[/bold green]"
          ++ Text.of " [dim](searched 1)[/dim]")] ∧
      hasIcon (Text.of "(f …") = true := by
  decide +kernel

end Command

end LispXref
