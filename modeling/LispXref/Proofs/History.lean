-- Readers and indexers have no history. Main statement: after any steps, also steps that
-- failed in the middle of a form, a reader answers as a new one at the same offset does, and
-- an indexer answers as a new one.
import LispXref.Indexer
import LispXref.Proofs.Recording
import LispXref.Proofs.Scanning
import LispXref.Reading.SomeNames

namespace LispXref

open Reading

namespace Reading.Reader

/-! ## Runs -/

/-- What can be asked of a reader before it is closed. -/
inductive Step where
  | readNext
  | readAll
  | scan (pos : Nat) (limit : Option Int)
  | seek (pos : Nat)

/-- The reader after a step, whatever the answer was. -/
def after [CharacterNames] (r : Reader) : Step → Reader
  | .readNext => r.readNext.2
  | .readAll => r.readAll.2
  | .scan pos limit => (r.scan pos limit).2
  | .seek pos => r.seek pos

/-- The reader after steps. -/
def run [CharacterNames] (r : Reader) (steps : List Step) : Reader := steps.foldl after r

/-- A reader reads the text of another, from the same path. -/
def SameSource (r s : Reader) : Prop := r.text = s.text ∧ r.path = s.path

theorem Shows.sameSource {α : Type} {r : Reader} {step : Except FileFault α × Reader}
    {answer : Except Fault α} {pos : Nat} (h : r.Shows step (answer, r.session.seek pos)) :
    step.2.SameSource r :=
  ⟨congrArg Session.text h.session, h.path⟩

theorem SameSource.trans {r s t : Reader} (h : r.SameSource s) (h' : s.SameSource t) :
    r.SameSource t :=
  ⟨h.1.trans h'.1, h.2.trans h'.2⟩

variable {known : CharacterNames}

/-- A step keeps the text and the path. -/
theorem after_sameSource [CharacterNames] (r : Reader) (step : Step) :
    (r.after step).SameSource r := by
  cases step with
  | readNext =>
    have h := r.readNext_shows
    unfold Session.readNext at h
    split at h <;> exact h.sameSource
  | readAll =>
    have h := r.readAll_shows
    unfold Session.readAll at h
    split at h <;> exact h.sameSource
  | scan pos limit =>
    have h := r.scan_shows pos limit
    unfold Session.scan at h
    split at h <;> exact h.sameSource
  | seek pos => exact ⟨rfl, rfl⟩

theorem run_sameSource [CharacterNames] (r : Reader) (steps : List Step) :
    (r.run steps).SameSource r := by
  induction steps generalizing r with
  | nil => exact ⟨rfl, rfl⟩
  | cons step steps ih => exact (ih (r.after step)).trans (r.after_sameSource step)

/-! ## Answers -/

section Answers

variable {r s : Reader}

theorem SameSource.session_eq (h : r.SameSource s) : r.session = s.session.seek r.pos := by
  unfold session Session.seek
  rw [h.1]

theorem SameSource.readAll_eq (h : r.SameSource s) : r.readAll.1 = s.readAll.1 := by
  rw [r.readAll_shows.answer, s.readAll_shows.answer, h.session_eq, h.2]
  rfl

theorem SameSource.scan_eq (h : r.SameSource s) (pos : Nat) (limit : Option Int) :
    (r.scan pos limit).1 = (s.scan pos limit).1 := by
  rw [(r.scan_shows pos limit).answer, (s.scan_shows pos limit).answer, h.session_eq, h.2]
  rfl

/-- From the same offset the same form is read, or the same fault is met, and reading stops
at the same offset. -/
theorem SameSource.readNext_eq (h : r.SameSource s) :
    r.readNext.1 = (s.seek r.pos).readNext.1 ∧ r.readNext.2.pos = (s.seek r.pos).readNext.2.pos := by
  have hr := r.readNext_shows
  have hs := (s.seek r.pos).readNext_shows
  rw [h.session_eq] at hr
  constructor
  · rw [hr.answer, hs.answer, h.2]
    rfl
  · exact congrArg Session.pos (hr.session.trans hs.session.symm)

end Answers

end Reading.Reader

/-! ## Indexers -/

theorem mapError_eq_ok {α ε ε' : Type} {f : ε → ε'} {x : Except ε α} {a : α} :
    x.mapError f = .ok a ↔ x = .ok a := by
  cases x with
  | ok b =>
    constructor <;> rintro ⟨⟩ <;> rfl
  | error e => constructor <;> nofun

theorem mapError_eq_error {α ε ε' : Type} {f : ε → ε'} {x : Except ε α} {e : ε'} :
    x.mapError f = .error e ↔ ∃ fault, x = .error fault ∧ f fault = e := by
  cases x with
  | ok b => exact ⟨nofun, fun ⟨_, hok, _⟩ => nomatch hok⟩
  | error fault =>
    constructor
    · rintro ⟨⟩
      exact ⟨fault, rfl, rfl⟩
    · rintro ⟨_, ⟨⟩, rfl⟩
      rfl

section

variable {known : CharacterNames}

/-- A scan answers as a scan of the text by a new session, and keeps the text and the path. -/
theorem Reading.Reader.scan_step {r next : Reader} {pos : Nat} {limit : Option Int}
    {answer : Except FileFault (Option Span)} (h : r.scan pos limit = (answer, next)) :
    ((Session.ofText r.text).scan pos limit).1.mapError (FileFault.mk r.path) = answer ∧
      next.SameSource r := by
  have hanswer := (r.scan_shows pos limit).answer
  have hsource := r.after_sameSource (.scan pos limit)
  simp only [Reader.after, h] at hanswer hsource
  exact ⟨hanswer.symm, hsource⟩

/-- The expressions that a reader finds one after the other are those of the text. -/
theorem Reading.Reader.expressionSpans_shows (r : Reader) (pos : Nat) (limit : Int) :
    (r.expressionSpans pos limit).1 =
        (LispXref.expressionSpans (.ofText r.text pos) limit).mapError (FileFault.mk r.path) ∧
      (r.expressionSpans pos limit).2.SameSource r := by
  fun_induction Reader.expressionSpans r pos limit with
  | case1 r pos s next h others ih =>
    obtain ⟨hanswer, hsource⟩ := Reader.scan_step h
    obtain ⟨hspans, hnext⟩ := ih
    refine ⟨?_, hnext.trans hsource⟩
    rw [expressionSpans_eq, mapError_eq_ok.1 hanswer]
    rw [hsource.1, hsource.2] at hspans
    dsimp only
    rw [hspans]
    cases LispXref.expressionSpans (.ofText r.text s.stop.toNat) limit <;> rfl
  | case2 r pos next h =>
    obtain ⟨hanswer, hsource⟩ := Reader.scan_step h
    refine ⟨?_, hsource⟩
    rw [expressionSpans_eq, mapError_eq_ok.1 hanswer]
    rfl
  | case3 r pos f next h =>
    obtain ⟨hanswer, hsource⟩ := Reader.scan_step h
    obtain ⟨fault, hfault, rfl⟩ := mapError_eq_error.1 hanswer
    refine ⟨?_, hsource⟩
    rw [expressionSpans_eq, hfault]
    rfl

namespace Indexer

/-- A shorthand form has its mark, and the expression behind the mark if it ends in time. -/
theorem childSpans_of_shorthand {text : Text} {span : Span} {m : Shorthand}
    (h : shorthandAt? (text.drop span.start.toNat) = some m) :
    LispXref.childSpans text span =
      ((Session.ofText text).scan (span.start.toNat + m.mark.length) (some span.stop)).1.map
        fun inner => .ofNat span.start.toNat (span.start.toNat + m.mark.length) :: inner.toList := by
  unfold LispXref.childSpans Session.scan
  simp only [h]
  rw [show (Session.ofText text).text = text from rfl]
  cases Reading.scan (.ofText text (span.start.toNat + m.mark.length)) with
  | truncated stop | failed fault stop => rfl
  | done found next =>
    cases found with
    | none => rfl
    | some inner => by_cases hlimit : inner.stop ≤ span.stop <;> simp [Option.filter, hlimit, Except.map]

/-- The child spans that an indexer answers with are those of its text. -/
theorem childSpans_shows (ix : Indexer) (span : Span) :
    (ix.childSpans span).1 =
        (LispXref.childSpans ix.reader.text span).mapError (FileFault.mk ix.reader.path) ∧
      (ix.childSpans span).2.reader.SameSource ix.reader := by
  cases hm : shorthandAt? (ix.reader.text.drop span.start.toNat) with
  | none =>
    unfold childSpans LispXref.childSpans
    simp only [hm]
    cases openerWidth? (ix.reader.text.drop span.start.toNat) with
    | none => exact ⟨rfl, rfl, rfl⟩
    | some width => exact ix.reader.expressionSpans_shows _ _
  | some m =>
    rw [childSpans_of_shorthand hm]
    unfold childSpans
    simp only [hm]
    split
    · rename_i inner next hscan
      obtain ⟨hanswer, hsource⟩ := Reader.scan_step hscan
      rw [mapError_eq_ok.1 hanswer]
      exact ⟨rfl, hsource⟩
    · rename_i f next hscan
      obtain ⟨hanswer, hsource⟩ := Reader.scan_step hscan
      obtain ⟨fault, hfault, rfl⟩ := mapError_eq_error.1 hanswer
      rw [hfault]
      exact ⟨rfl, hsource⟩

/-- The indexer after it was asked for child spans, whatever the answers were. -/
def serve [CharacterNames] (ix : Indexer) (spans : List Span) : Indexer :=
  spans.foldl (fun ix span => (ix.childSpans span).2) ix

theorem serve_sameSource (ix : Indexer) (spans : List Span) :
    (ix.serve spans).reader.SameSource ix.reader := by
  induction spans generalizing ix with
  | nil => exact ⟨rfl, rfl⟩
  | cons span spans ih => exact (ih (ix.childSpans span).2).trans (ix.childSpans_shows span).2

end Indexer

/-! ## No history -/

/-- Nothing of what a reader did before is left in its answers, wherever it stood at the start
and whatever was in its table. After any steps it reads the whole text, and scans from any
offset, as a new reader does; and it reads the next form, with the same tokens and up to the
same offset, as a new reader that is set to the offset where it stands. An indexer answers a
request for child spans as a new one does, whatever it was asked before. -/
theorem history_leaves_no_trace (r : Reader) (steps : List Reader.Step) (ix : Indexer)
    (spans : List Span) :
    let used := r.run steps
    let fresh := Reader.ofText r.text r.path
    used.readAll.1 = fresh.readAll.1 ∧
    (∀ pos limit, (used.scan pos limit).1 = (fresh.scan pos limit).1) ∧
    used.readNext.1 = (fresh.seek used.pos).readNext.1 ∧
    used.readNext.2.pos = (fresh.seek used.pos).readNext.2.pos ∧
    ∀ span, ((ix.serve spans).childSpans span).1 =
      ((Indexer.ofText ix.reader.text ix.reader.path).childSpans span).1 := by
  intro used fresh
  have hfresh : used.SameSource fresh := (r.run_sameSource steps).trans ⟨rfl, rfl⟩
  obtain ⟨hanswer, hpos⟩ := hfresh.readNext_eq
  refine ⟨hfresh.readAll_eq, hfresh.scan_eq, hanswer, hpos, fun span => ?_⟩
  obtain ⟨htext, hpath⟩ := ix.serve_sameSource spans
  rw [((ix.serve spans).childSpans_shows span).1, htext, hpath]
  exact ((Indexer.ofText ix.reader.text ix.reader.path).childSpans_shows span).1.symm

end

open SomeNames

-- The table does survive a fault in the middle of a form.
example : ((Reader.ofText (Text.of "(a (b . ))") (Text.of "a.el")).readNext.2.table.map
    Occurrence.symbol) = [.named "a", .named "b"] := by decide +kernel

end LispXref
