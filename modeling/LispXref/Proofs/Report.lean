-- What a search reports. Main statement: on a console that escapes tags and shows messages, a
-- run shows exactly what the loaded files hold, or the first malformed file if the search does
-- not pass over it.
import LispXref.Proofs.Aggregation
import LispXref.Proofs.Configuration
import LispXref.Proofs.Discovery
import LispXref.Proofs.Display
import LispXref.Proofs.Lines
import LispXref.Proofs.TagConsole
import LispXref.Reading.SomeNames

namespace LispXref.Command

open Reading
open Console (escape)
open Markup (endMark)

/-! ## The report, from the files on their own -/

/-- The line and column at which a match starts. -/
def placeOf (source : SourceFile) (m : Match) : Int × Int :=
  Text.endPlace (source.text.take m.span.start.toNat)

/-- A match as a row. -/
def rowOf [Console] (source : SourceFile) (m : Match) : Int × Int × Text :=
  ((placeOf source m).1, (placeOf source m).2,
    escape (snippet source.text m.span.start m.span.stop snippetWidth))

/-- A match as a panel: the title is the path with the line and the column. -/
def panelOf [Console] (cwd : Corpus.Location) (context : Nat) (source : SourceFile) (m : Match) :
    Printed :=
  let place := placeOf source m
  let around := ((LineIndex.ofText source.text).context? m.span.start m.span.stop context).getD []
  .panel (escape (Corpus.displayPath cwd source.path ++ Text.of ":" ++ Text.ofInt place.1
      ++ Text.of ":" ++ Text.ofInt place.2))
    (Text.join (Text.of "\n") (around.map (·.2))) ((around.head?.map (·.1)).getD place.1) place.1

/-- The matches of a file: one table with a row for each, or with context a panel for each. A
file without a match shows nothing. -/
def itemsOf [Console] (cwd : Corpus.Location) (context : Nat) (source : SourceFile) :
    List Match → List Printed
  | [] => []
  | ms =>
    if context = 0 then [.table (escape (Corpus.displayPath cwd source.path)) (ms.map (rowOf source))]
    else ms.map (panelOf cwd context source)

/-- Whether malformed files end the search. -/
def aborts (w : World) (request : SearchRequest) : Bool :=
  !request.skipMalformed && w.environment.policyName = Policy.abort.name

/-- The loaded files that are searched. -/
def selected (w : World) (request : SearchRequest) (sources : List SourceFile) : List SourceFile :=
  selectFiles (requestedStart w request) sources

/-- The report on loaded files: the matches of the searched files in order, a warning about
every malformed one, and the summary. -/
def fullReport [CharacterNames] [Console] (w : World) (request : SearchRequest) (kind : Kind)
    (sources : List SourceFile) : List Printed :=
  let files := selected w request sources
  let found (source : SourceFile) := source.matchesOf (.intern request.symbol) kind
  files.flatMap (fun source => itemsOf w.cwd request.context source (found source))
    ++ (files.filterMap SourceFile.refusal?).map (reportSkipped w.cwd)
    ++ [summary kind request.symbol (files.flatMap found).length
      (files.countP fun source => !(found source).isEmpty) sources.length]

/-- The status and the report that loaded files call for. The first malformed file takes the
place of the report if malformed files end the search. -/
def answer [CharacterNames] [Console] (w : World) (request : SearchRequest) (kind : Kind)
    (sources : List SourceFile) : Nat × List Printed :=
  match aborts w request, (selected w request sources).filterMap SourceFile.refusal? with
  | true, first :: _ => (1, reportAborted w.cwd first.path first.offset first.reason)
  | _, _ => (0, fullReport w request kind sources)

/-! ## Matches and their places -/

section

variable {known : CharacterNames} {console : Console}

theorem inOrder_matchesOf (target : Symbol) (kind : Kind) (source : SourceFile) :
    (∀ m ∈ source.matchesOf target kind, 0 ≤ m.span.start ∧ m.span.start ≤ source.text.length) ∧
      (source.matchesOf target kind).Pairwise fun m n => m.span.stop ≤ n.span.start := by
  unfold SourceFile.matchesOf
  cases hs : searchText target kind source.text with
  | error fault => exact ⟨nofun, .nil⟩
  | ok ms =>
    obtain ⟨ls, hall, hrow, rfl⟩ := exists_row_of_searchText hs
    have horder := hrow.inOrder fun l hl => (hall l hl).inOrder_matchesOf target kind
    refine ⟨fun m hm => ?_, horder.pairwise⟩
    have hm := horder.mem hm
    omega

theorem position_eq_placeOf {source : SourceFile} {m : Match} (h : 0 ≤ m.span.start)
    (hlen : m.span.start ≤ source.text.length) :
    (LineIndex.ofText source.text).position m.span.start = placeOf source m := by
  obtain ⟨start, hstart⟩ := Int.eq_ofNat_of_zero_le h
  rw [placeOf, hstart, Int.toNat_natCast]
  exact LineIndex.position_ofText source.text (by omega)

/-- The report of a file with matches. -/
theorem reportFile_eq (cwd : Corpus.Location) (context : Nat) {source : SourceFile} {ms : List Match}
    (hne : ms ≠ []) (h : ∀ m ∈ ms, 0 ≤ m.span.start ∧ m.span.start ≤ source.text.length) :
    reportFile (Corpus.displayPath cwd source.path) source.text context ms =
      itemsOf cwd context source ms := by
  have hrows : ms.map (matchRow (LineIndex.ofText source.text)) = ms.map (rowOf source) := by
    refine List.map_congr_left fun m hm => ?_
    rw [matchRow, position_eq_placeOf (h m hm).1 (h m hm).2]
    rfl
  have hpanels : ms.map (matchPanel (LineIndex.ofText source.text) (Corpus.displayPath cwd source.path)
      context) = ms.map (panelOf cwd context source) := by
    refine List.map_congr_left fun m hm => ?_
    rw [matchPanel, position_eq_placeOf (h m hm).1 (h m hm).2]
    rfl
  unfold reportFile itemsOf
  cases ms with
  | nil => exact absurd rfl hne
  | cons m ms =>
    dsimp only
    rw [hrows, hpanels]
    by_cases hc : context = 0
    · rw [if_neg (by omega), if_pos hc]
    · rw [if_pos (by omega), if_neg hc]

section Sources

variable {target : Symbol} {kind : Kind} {sources files : List SourceFile}

theorem find?_path (hnodup : (sources.map SourceFile.path).Nodup) {source : SourceFile}
    (h : source ∈ sources) : sources.find? (fun s => s.path = source.path) = some source := by
  induction sources with
  | nil => cases h
  | cons s sources ih =>
    rw [List.map_cons, List.nodup_cons] at hnodup
    rcases List.mem_cons.1 h with rfl | h
    · exact List.find?_cons_of_pos (by simp)
    · have hne : s.path ≠ source.path := fun heq =>
        hnodup.1 (heq ▸ List.mem_map_of_mem h)
      rw [List.find?_cons_of_neg (by simpa using hne)]
      exact ih hnodup.2 h

theorem hits_cons (source : SourceFile) (files : List SourceFile) :
    hits target kind (source :: files) =
      (if (source.matchesOf target kind).isEmpty then [] else [(source.path, source.matchesOf target kind)])
        ++ hits target kind files := by
  unfold hits
  rw [List.map_cons, List.filter_cons]
  cases (source.matchesOf target kind).isEmpty <;> rfl

/-- Every searched file is reported with its own text. -/
theorem reportFound_hits (cwd : Corpus.Location) (context : Nat)
    (hnodup : (sources.map SourceFile.path).Nodup) (hfiles : ∀ source ∈ files, source ∈ sources) :
    reportFound cwd sources context (hits target kind files) =
      files.flatMap fun source => itemsOf cwd context source (source.matchesOf target kind) := by
  induction files with
  | nil => rfl
  | cons source files ih =>
    obtain ⟨hsource, hrest⟩ := List.forall_mem_cons.1 hfiles
    rw [hits_cons, List.flatMap_cons, ← ih hrest]
    cases hms : source.matchesOf target kind with
    | nil => rfl
    | cons m ms =>
      have hreport := @reportFile_eq console cwd context source (m :: ms) (List.cons_ne_nil m ms)
        (hms ▸ (inOrder_matchesOf target kind source).1)
      unfold reportFound
      simp only [List.isEmpty_cons, Bool.false_eq_true, if_false, List.singleton_append, List.flatMap_cons,
        find?_path hnodup hsource, hreport]

theorem matchCount_hits (files : List SourceFile) :
    matchCount (hits target kind files) = (files.flatMap (SourceFile.matchesOf target kind)).length := by
  induction files with
  | nil => rfl
  | cons source files ih =>
    unfold matchCount at ih ⊢
    rw [hits_cons, List.flatMap_append, List.length_append, ih, List.flatMap_cons, List.length_append]
    cases source.matchesOf target kind with
    | nil => rfl
    | cons m ms => simp

theorem length_hits (files : List SourceFile) :
    (hits target kind files).length =
      files.countP fun source => !(source.matchesOf target kind).isEmpty := by
  unfold hits
  rw [← List.countP_eq_length_filter, List.countP_map]
  rfl

end Sources

/-! ## Settings and files -/

/-- A valid configuration gives settings with the policy in force. -/
theorem runSettings_of_validate {w : World} (h : w.environment.validate = .ok ())
    (request : SearchRequest) : ∃ settings, runSettings w request = .ok settings ∧
      settings.policy = if aborts w request then .abort else .skip := by
  obtain ⟨settings, hsettings, _, _, hname, _⟩ := Config.Environment.admits_of_validate h
  unfold runSettings aborts
  rw [h, hsettings, hname]
  refine ⟨_, rfl, ?_⟩
  cases request.skipMalformed with
  | true => rfl
  | false =>
    rw [if_neg Bool.false_ne_true]
    cases settings.policy <;> decide

theorem locate_dot (t : Corpus.FileTree) (cwd : Corpus.Location) :
    t.locate cwd (.parse (Text.of ".")) = some cwd := rfl

/-- Existing paths give files, no two of one path. -/
theorem exists_runSources {w : World} {request : SearchRequest} (htree : w.tree.WellNamed)
    (hendings : ∀ ending ∈ w.environment.extensions,
      ∃ levels, Corpus.Glob.parsePath (Text.of "*" ++ ending) = .ok levels)
    (hpaths : ∀ path ∈ request.paths, (w.tree.locate w.cwd (.parse path)).isSome) :
    ∃ sources, runSources w request = .ok sources ∧ (sources.map SourceFile.path).Nodup := by
  have hall : ∀ path ∈ if request.paths.isEmpty then [Text.of "."] else request.paths,
      (w.tree.locate w.cwd (.parse path)).isSome := by
    split
    · intro path hpath
      rw [List.mem_singleton.1 hpath, locate_dot]
      rfl
    · exact hpaths
  obtain ⟨files, hfiles⟩ := Corpus.exists_discover w.environment.excludedDirs hall hendings
  refine ⟨_, ?_, Corpus.nodup_paths_load htree hfiles⟩
  unfold runSources
  simp only [hfiles]

/-! ## The search -/

section Search

variable {w : World} {request : SearchRequest} {kind : Kind} {sources : List SourceFile}

/-- A search without a fault is reported file by file. -/
theorem report_eq {settings : Settings} (kind : Kind) (hnodup : (sources.map SourceFile.path).Nodup)
    (hstop : (selected w request sources).findSome? (SourceFile.stop? settings.policy) = none) :
    report w.cwd sources request.context kind request.symbol
        (search settings (.intern request.symbol) kind (requestedStart w request) sources).tally =
      fullReport w request kind sources := by
  have hfiles : ∀ source ∈ selected w request sources, source ∈ sources :=
    fun source => mem_of_mem_selectFiles
  have hpaths : ((selected w request sources).map SourceFile.path).Nodup :=
    hnodup.sublist ((selectFiles_sublist _ sources).map SourceFile.path)
  obtain ⟨hfound, hskipped⟩ := searchFrom_tally settings (.intern request.symbol) kind
    (selected w request sources).length 0 (selected w request sources) .empty hstop
  have hhits : (search settings (.intern request.symbol) kind (requestedStart w request)
      sources).tally.found = hits (.intern request.symbol) kind (selected w request sources) :=
    hfound.trans (ofHits_hits _ kind hpaths)
  have hrefused : (search settings (.intern request.symbol) kind (requestedStart w request)
      sources).tally.skipped = (selected w request sources).filterMap SourceFile.refusal? := hskipped
  rw [report, hhits, hrefused, reportFound_hits w.cwd request.context hnodup hfiles, matchCount_hits,
    length_hits]
  rfl

/-- A search of loaded files ends as they call for. -/
theorem runSearch_eq_answer (hvalid : w.environment.validate = .ok ())
    (hsources : runSources w request = .ok sources) (hnodup : (sources.map SourceFile.path).Nodup)
    (hread : ∀ source ∈ sources, ∀ fault, readAll source.text = .error fault → fault.Refuses) :
    runSearch w kind request =
      .exit (answer w request kind sources).1 (answer w request kind sources).2 := by
  obtain ⟨settings, hsettings, hpolicy⟩ := runSettings_of_validate hvalid request
  have hselected : ∀ source ∈ selected w request sources, ∀ fault,
      readAll source.text = .error fault → fault.Refuses :=
    fun source hs => hread source (mem_of_mem_selectFiles hs)
  have hfault : (search settings (.intern request.symbol) kind (requestedStart w request)
      sources).fault = (selected w request sources).findSome? (SourceFile.stop? settings.policy) :=
    searchFrom_fault settings _ kind _ 0 _ .empty
  unfold runSearch answer
  rw [hsettings, hsources]
  dsimp only
  rw [hfault]
  cases ha : aborts w request with
  | false =>
    rw [ha] at hpolicy
    have hstop : (selected w request sources).findSome? (SourceFile.stop? settings.policy) = none := by
      rw [hpolicy]
      exact List.findSome?_eq_none_iff.2 fun source hs => source.stop?_skip (hselected source hs)
    rw [hstop]
    exact congrArg (Ending.exit 0) (report_eq kind hnodup hstop)
  | true =>
    rw [ha] at hpolicy
    have hstop : (selected w request sources).findSome? (SourceFile.stop? settings.policy) =
        ((selected w request sources).filterMap SourceFile.refusal?).head?.map Skipped.fault := by
      rw [hpolicy, List.head?_filterMap]
      exact findSome?_stop?_abort hselected
    cases hrefused : (selected w request sources).filterMap SourceFile.refusal? with
    | cons first rest =>
      rw [hstop, hrefused]
      rfl
    | nil =>
      rw [hrefused] at hstop
      rw [hstop]
      exact congrArg (Ending.exit 0) (report_eq kind hnodup hstop)

end Search

/-! ## What is shown -/

/-- A thing as the terminal takes it. -/
def World.adapt (w : World) (item : Printed) : Printed := if w.sanitizes then item.sanitize else item

theorem fit_adapt (w : World) {item : Printed} (h : item.Fit) : (w.adapt item).Fit := by
  unfold World.adapt
  split
  · exact h.sanitize
  · exact h

/-- The kind that a request leads to. -/
def chosenKind? (w : World) (request : SearchRequest) : Option Kind :=
  match request.choice with
  | .fixed kind => some kind
  | .named name => (Kind.ofName name.lower).toOption
  | .asked => w.reply.bind fun name => (Kind.ofName name.lower).toOption

theorem runNamed_eq {w : World} {name : Text} {request : SearchRequest} {kind : Kind}
    (h : (Kind.ofName name.lower).toOption = some kind) :
    runNamed w name request = runSearch w kind request := by
  unfold runNamed
  cases hk : Kind.ofName name.lower with
  | ok k =>
    rw [hk] at h
    cases h
    rfl
  | error e =>
    rw [hk] at h
    cases h

theorem runRequest_eq {w : World} {request : SearchRequest} {kind : Kind}
    (h : chosenKind? w request = some kind) : runRequest w request = runSearch w kind request := by
  unfold chosenKind? at h
  unfold runRequest
  cases hc : request.choice with
  | fixed k =>
    rw [hc] at h
    cases h
    rfl
  | named name =>
    rw [hc] at h
    exact runNamed_eq h
  | asked =>
    rw [hc] at h
    obtain ⟨name, hname, h⟩ := Option.bind_eq_some_iff.1 h
    rw [hname]
    exact runNamed_eq h

/-- An ending whose things can be shown is shown. -/
theorem run_of_runSearch (hshow : console.ShowsMessages) {w : World} {request : SearchRequest}
    {kind : Kind} (hkind : chosenKind? w request = some kind) {status : Nat} {items : List Printed}
    (hend : runSearch w kind request = .exit status items) (hfit : ∀ item ∈ items, item.Fit) :
    let ending := run w (.search request)
    ending.status = status ∧ ending.uncaught = none ∧
      List.Forall₂ (fun item shown => (w.adapt item).display = .ok shown) items ending.printed := by
  have hrespond : respond w (.search request) = .exit status (items.map w.adapt) := by
    unfold respond World.adapt
    dsimp only
    rw [runRequest_eq hkind, hend]
    cases w.sanitizes with
    | true => rfl
    | false => simp
  have hadapted : ∀ item ∈ items.map w.adapt, item.Fit := by
    intro item hitem
    obtain ⟨original, horiginal, rfl⟩ := List.mem_map.1 hitem
    exact fit_adapt w (hfit original horiginal)
  obtain ⟨shown, hshown, hall⟩ := displayAll_of_fit hshow hadapted
  have hrun : run w (.search request) = .exit status shown := by
    rw [run, hrespond, Ending.display, Ending.exit]
    simp only [hshown]
    rfl
  rw [hrun]
  exact ⟨rfl, rfl, List.forall₂_map_left_iff.1 hall⟩

theorem fit_of_mem_itemsOf (hescape : console.EscapesTags) {cwd : Corpus.Location} {context : Nat}
    {source : SourceFile} {ms : List Match} {item : Printed}
    (h : item ∈ itemsOf cwd context source ms) : item.Fit := by
  cases ms with
  | nil => cases h
  | cons m ms =>
    unfold itemsOf at h
    dsimp only at h
    split at h
    · rw [List.mem_singleton.1 h]
      refine ⟨hescape.harmless _, fun row hrow => ?_⟩
      obtain ⟨n, _, rfl⟩ := List.mem_map.1 hrow
      exact hescape.harmless _
    · obtain ⟨n, _, rfl⟩ := List.mem_map.1 h
      exact hescape.harmless _

/-- Everything that an answer holds can be shown, unless a warning has to name a path with a
slash behind a bracket. -/
theorem fit_of_mem_answer (hescape : console.EscapesTags) {w : World} {request : SearchRequest}
    {kind : Kind} {sources : List SourceFile}
    (h : aborts w request = false → ∀ refused ∈ (selected w request sources).filterMap
      SourceFile.refusal?, ¬ endMark <:+: Corpus.displayPath w.cwd refused.path) :
    ∀ item ∈ (answer w request kind sources).2, item.Fit := by
  have hfull : (∀ refused ∈ (selected w request sources).filterMap SourceFile.refusal?,
      ¬ endMark <:+: Corpus.displayPath w.cwd refused.path) →
      ∀ item ∈ fullReport w request kind sources, item.Fit := by
    intro hpaths item hitem
    unfold fullReport at hitem
    dsimp only at hitem
    rw [List.mem_append, List.mem_append, List.mem_singleton] at hitem
    rcases hitem with (hitem | hitem) | rfl
    · obtain ⟨source, _, hitem⟩ := List.mem_flatMap.1 hitem
      exact fit_of_mem_itemsOf hescape hitem
    · obtain ⟨refused, hrefused, rfl⟩ := List.mem_map.1 hitem
      exact fit_reportSkipped hescape (hpaths refused hrefused)
    · exact fit_summary hescape kind request.symbol _ _ _
  unfold answer
  cases ha : aborts w request with
  | false => exact hfull (h ha)
  | true =>
    cases hrefused : (selected w request sources).filterMap SourceFile.refusal? with
    | cons first rest => exact fun item => fit_of_mem_reportAborted hescape
    | nil =>
      rw [hrefused] at hfull
      exact hfull nofun

end

open scoped SomeNames TagConsole

end LispXref.Command
