-- What a search reports while it runs. Main statement: the reports are the milestones
-- before the file where the search stopped, or all of them and the last report; nothing
-- else about the files matters.
import LispXref.Proofs.Aggregation
import LispXref.Reading.SomeNames

namespace LispXref

/-- The reports that are due before file number `bound` of `total` is done: one for each
multiple of the setting below that number. -/
def milestones (every total bound : Nat) : List (Nat × Nat) :=
  ((List.range bound).filter fun k => 0 < k ∧ k % every = 0).map fun k => (k, total)

/-- The report that follows file number `k` of `total`, unless there is none. -/
def reportAfter (every total k : Nat) : List (Nat × Nat) :=
  if k % every = 0 ∧ k ≠ total then [(k, total)] else []

/-- Each file but the last adds the report that follows it. -/
theorem milestones_succ (every : Nat) {total k : Nat} (hpos : 0 < k) (hlt : k < total) :
    milestones every total (k + 1) = milestones every total k ++ reportAfter every total k := by
  have hne : k ≠ total := by omega
  unfold milestones reportAfter
  rw [List.range_succ, List.filter_append, List.map_append]
  by_cases hmultiple : k % every = 0
  · simp [hpos, hmultiple, hne]
  · simp [hmultiple]

/-! ## The loop -/

section Loop

variable {known : CharacterNames}
variable (settings : Settings) (target : Symbol) (kind : Kind)

/-- A file does not end the search. -/
def SourceFile.Passes [CharacterNames] (source : SourceFile) : Prop :=
  ∀ f, searchFile settings.policy target kind source ≠ .aborted f

theorem Tally.progress_record (t : Tally) (path : Text) (ms : List Match) :
    (t.record path ms).progress = t.progress := by
  unfold record
  split <;> rfl

/-- One turn of the loop: a file that does not end the search adds a report if its number is
a multiple and not the last, whatever is in the file. -/
theorem searchFrom_reports {source : SourceFile} (h : source.Passes settings target kind)
    (total done : Nat) (rest : List SourceFile) (tally : Tally) :
    ∃ next : Tally, searchFrom settings target kind total done (source :: rest) tally =
        searchFrom settings target kind total (done + 1) rest next ∧
      next.progress = tally.progress ++ reportAfter settings.progressEvery total (done + 1) := by
  rw [searchFrom]
  unfold reportAfter
  dsimp only
  split
  · refine ⟨_, rfl, ?_⟩
    split
    · rw [Tally.report, Tally.progress_record]
    · rw [Tally.progress_record, List.append_nil]
  · refine ⟨_, rfl, ?_⟩
    split
    · rfl
    · exact (List.append_nil _).symm
  · rename_i f hf
    exact absurd hf (h f)

/-- What was reported so far, once `done` files of `total` are done. -/
def Tally.OnSchedule (tally : Tally) (done total : Nat) : Prop :=
  tally.progress = milestones settings.progressEvery total (min (done + 1) total)

/-- A turn of the loop keeps the schedule. -/
theorem Tally.OnSchedule.step {tally next : Tally} {done total : Nat}
    (h : tally.OnSchedule settings done total) (hdone : done < total)
    (hnext : next.progress = tally.progress ++ reportAfter settings.progressEvery total (done + 1)) :
    next.OnSchedule settings (done + 1) total := by
  unfold OnSchedule at h ⊢
  rw [hnext, h, Nat.min_eq_left (by omega : done + 1 ≤ total)]
  by_cases hlast : done + 1 = total
  · -- No report follows the last file; it is left to the report of the end.
    have hnone : reportAfter settings.progressEvery total (done + 1) = [] := by
      simp [reportAfter, hlast]
    rw [hnone, List.append_nil, Nat.min_eq_right (by omega), hlast]
  · rw [Nat.min_eq_left (by omega)]
    exact (milestones_succ _ (by omega) (by omega)).symm

/-- A search that was on schedule reports the rest of the milestones and then the end, or
only those before the file that ends it. -/
theorem searchFrom_progress {total done : Nat} {files : List SourceFile} {tally : Tally}
    (hfiles : done + files.length = total) (htally : tally.OnSchedule settings done total) :
    ((searchFrom settings target kind total done files tally).fault = none →
      (searchFrom settings target kind total done files tally).tally.progress =
        milestones settings.progressEvery total total ++ [(total, total)]) ∧
    ∀ f, (searchFrom settings target kind total done files tally).fault = some f →
      ∃ before source after, files = before ++ source :: after ∧
        (∀ s ∈ before, s.Passes settings target kind) ∧
        searchFile settings.policy target kind source = .aborted f ∧
        (searchFrom settings target kind total done files tally).tally.progress =
          milestones settings.progressEvery total (done + before.length + 1) := by
  -- Each file that is passed leaves the tally on schedule for the files after it.
  induction files generalizing done tally with
  | nil =>
    rw [searchFrom]
    refine ⟨fun _ => ?_, fun f hf => by cases hf⟩
    have hdone : min (done + 1) total = total := by
      simp only [List.length_nil] at hfiles
      omega
    unfold Tally.OnSchedule at htally
    rw [hdone] at htally
    rw [Tally.report, htally]
  | cons source rest ih =>
    simp only [List.length_cons] at hfiles
    by_cases hpasses : source.Passes settings target kind
    · obtain ⟨next, hstep, hprogress⟩ :=
        searchFrom_reports settings target kind hpasses total done rest tally
      obtain ⟨hends, hstops⟩ := ih (by omega) (htally.step settings (by omega) hprogress)
      rw [hstep]
      refine ⟨hends, fun f hf => ?_⟩
      obtain ⟨before, stopper, after, hsplit, hbefore, hstopper, hreports⟩ := hstops f hf
      refine ⟨source :: before, stopper, after, by rw [hsplit, List.cons_append], ?_, hstopper, ?_⟩
      · exact List.forall_mem_cons.2 ⟨hpasses, hbefore⟩
      · rw [hreports, List.length_cons, Nat.add_right_comm done, Nat.add_assoc done]
    · obtain ⟨f, hf⟩ : ∃ f, searchFile settings.policy target kind source = .aborted f := by
        simpa [SourceFile.Passes] using hpasses
      have hrun : searchFrom settings target kind total done (source :: rest) tally =
          ⟨tally, some f⟩ := by rw [searchFrom, hf]
      rw [hrun]
      refine ⟨fun hnone => absurd hnone (Option.some_ne_none f), ?_⟩
      rintro _ ⟨⟩
      unfold Tally.OnSchedule at htally
      rw [Nat.min_eq_left (by omega)] at htally
      exact ⟨[], source, rest, rfl, List.forall_mem_nil _, hf, htally⟩

end Loop

/-! ## Whole searches -/

section

variable {known : CharacterNames}

/-- What a search reports depends on the number of the files, on the setting and on where the
search stops, and on nothing else. A search that comes to its end has reported every
multiple of the setting below the number of the files, in order, and then the end once. A
search that a file stops has reported the multiples below the number of that file. -/
theorem search_reports_exactly (finder : Finder) (target : Symbol) (kind : Kind)
    (pathStart : Option Text) (files : List SourceFile) :
    let selected := selectFiles pathStart files
    let run := (finder.search target kind pathStart files).1
    (run.fault = none → run.tally.progress =
      milestones finder.settings.progressEvery selected.length selected.length ++
        [(selected.length, selected.length)]) ∧
    ∀ f, run.fault = some f → ∃ before source after, selected = before ++ source :: after ∧
      (∀ s ∈ before, s.Passes finder.settings target kind) ∧
      searchFile finder.settings.policy target kind source = .aborted f ∧
      run.tally.progress =
        milestones finder.settings.progressEvery selected.length (before.length + 1) := by
  intro selected run
  have hempty : Tally.empty.OnSchedule finder.settings 0 selected.length := by
    unfold Tally.OnSchedule
    cases selected with
    | nil => rfl
    | cons source rest =>
      rw [Nat.min_eq_left (by simp)]
      rfl
  obtain ⟨hends, hstops⟩ :=
    searchFrom_progress finder.settings target kind (Nat.zero_add _) hempty
  refine ⟨hends, fun f hf => ?_⟩
  obtain ⟨before, source, after, hsplit, hbefore, hsource, hreports⟩ := hstops f hf
  rw [Nat.zero_add] at hreports
  exact ⟨before, source, after, hsplit, hbefore, hsource, hreports⟩

end

open SomeNames

/-- Four files with a report after every second: the last is reported once, and a malformed
file stops the reports as it stops the search. -/
theorem search_reports_exactly_four_files :
    let source (name text : String) : SourceFile := ⟨Text.of name, Text.of text⟩
    let complete := [source "a" "(f)", source "b" "", source "c" "(f", source "d" "(g)"]
    let broken := [source "a" "(f)", source "b" "", source "c" "(f))", source "d" "(g)"]
    let finder := Finder.new ⟨2, .abort, by decide⟩
    let run files := (finder.search (.named "f") .function none files).1
    (run complete).fault = none ∧ (run complete).tally.progress = [(2, 4), (4, 4)] ∧
    ∃ before stopper after, broken = before ++ stopper :: after ∧
      (run broken).tally.progress = milestones 2 4 (before.length + 1) := by
  intro source complete broken finder run
  have hends : (run complete).fault = none := by decide +kernel
  have hstops : (run broken).fault =
      some ⟨Text.of "c", .malformed 3 (.unexpectedCloser ')')⟩ := by decide +kernel
  have hdue : milestones 2 4 4 ++ [(4, 4)] = [(2, 4), (4, 4)] := by decide
  have hreports := (search_reports_exactly finder (.named "f") .function none complete).1 hends
  obtain ⟨before, stopper, after, hsplit, _, _, hreports'⟩ :=
    (search_reports_exactly finder (.named "f") .function none broken).2 _ hstops
  exact ⟨hends, hreports.trans hdue, before, stopper, after, hsplit, hreports'⟩

end LispXref
