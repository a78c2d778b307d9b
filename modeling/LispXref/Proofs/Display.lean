-- What a run prints can be shown, with glyphs or with their stand-ins. Main statements: on a
-- console that shows messages, the tables, panels and messages of a report are shown, but for a
-- warning whose path has a bracket before a slash, which the reason can make a tag of.
import LispXref.Command.Run
import LispXref.Proofs.Discovery
import LispXref.Proofs.Escaping

namespace LispXref.Command

open Console (escape)
open Markup

/-! ## Things that can be shown -/

/-- Its texts end only styles that they start. -/
def Printed.Fit : Printed → Prop
  | .line text => Message text
  | .table title rows => harmless false title = true ∧ ∀ row ∈ rows, harmless false row.2.2 = true
  | .panel title _ _ _ => harmless false title = true

theorem Printed.Fit.sanitize {item : Printed} (h : item.Fit) : item.sanitize.Fit := by
  cases item with
  | line text => exact Message.replaceIcons h
  | table title rows => exact h
  | panel title code startLine highlight => exact h

section

variable {console : Console}

theorem exists_mapM_displayRow (hshow : console.ShowsMessages) {rows : List (Int × Int × Text)}
    (h : ∀ row ∈ rows, harmless false row.2.2 = true) : ∃ shown, rows.mapM displayRow = .ok shown := by
  refine exists_mapM_ok fun row hrow => ?_
  obtain ⟨text, htext⟩ := hshow _ (.harmless (h row hrow))
  exact ⟨_, by rw [displayRow, htext]; rfl⟩

theorem Printed.Fit.exists_display (hshow : console.ShowsMessages) {item : Printed} (h : item.Fit) :
    ∃ shown, item.display = .ok shown := by
  cases item with
  | line text =>
    obtain ⟨shown, hshown⟩ := hshow _ h
    exact ⟨_, by rw [display, hshown]; rfl⟩
  | table title rows =>
    obtain ⟨shown, hshown⟩ := hshow _ (.harmless h.1)
    obtain ⟨cells, hcells⟩ := exists_mapM_displayRow hshow h.2
    exact ⟨_, by rw [display, hshown, hcells]; rfl⟩
  | panel title code startLine highlight =>
    obtain ⟨shown, hshown⟩ := hshow _ (.harmless h)
    exact ⟨_, by rw [display, hshown]; rfl⟩

/-- Things that can be shown are shown one by one. -/
theorem displayAll_of_fit (hshow : console.ShowsMessages) {items : List Printed}
    (h : ∀ item ∈ items, item.Fit) : ∃ shown, displayAll items = (shown, none) ∧
      List.Forall₂ (fun item s => item.display = .ok s) items shown := by
  induction items with
  | nil => exact ⟨[], rfl, .nil⟩
  | cons item items ih =>
    obtain ⟨hitem, hitems⟩ := List.forall_mem_cons.1 h
    obtain ⟨s, hs⟩ := hitem.exists_display hshow
    obtain ⟨shown, hshown, hall⟩ := ih hitems
    refine ⟨s :: shown, ?_, .cons hs hall⟩
    rw [displayAll, hs, hshown]

/-! ## Reports -/

theorem isPlain_plural (n : Nat) (word : String) (h : isPlain (Text.of word) = true) :
    isPlain (plural n word) = true := by
  unfold plural
  rw [isPlain_append, h]
  split <;> decide

theorem isPlain_kindName (kind : Kind) : isPlain kind.name = true := by
  cases kind <;> decide

theorem message_size (searched : Nat) :
    Message (Text.of " " ++ styled "dim" (Text.of "(searched " ++ Text.ofNat searched ++ Text.of ")")) := by
  have hplain : isPlain (Text.of "(searched " ++ Text.ofNat searched ++ Text.of ")") = true := by
    rw [isPlain_append, isPlain_append, isPlain_ofNat]
    decide
  have hsize := Message.styled (Text.of " ") "dim" (by decide) (by decide)
    (harmless_of_isPlain hplain false) (.harmless (t := []) rfl)
  rwa [List.append_nil] at hsize

theorem fit_summary (hescape : console.EscapesTags) (kind : Kind) (symbol : Text)
    (count files searched : Nat) :
    (summary kind symbol count files searched).Fit := by
  unfold summary
  dsimp only
  split
  · have hfront : isPlain (Text.of "No " ++ kind.name ++ Text.of " references to ") = true := by
      rw [isPlain_append, isPlain_append, isPlain_kindName]
      decide
    have hinside : harmless false (Text.of "No " ++ kind.name ++ Text.of " references to "
        ++ escape symbol ++ Text.of " found") = true := by
      refine harmless_append_plain ?_ (by decide)
      rw [harmless_plain_append hfront]
      exact hescape.harmless symbol
    exact Message.styled [] "bold yellow" (by decide) (by decide) hinside (message_size searched)
  · have hfront : isPlain (Text.of "✓ Found " ++ Text.ofNat count ++ Text.of " " ++ kind.name
        ++ Text.of " " ++ plural count "reference" ++ Text.of " to ") = true := by
      simp only [isPlain_append, isPlain_kindName, isPlain_ofNat,
        isPlain_plural count "reference" (by decide)]
      decide
    have hback : isPlain (Text.of " in " ++ (Text.ofNat files ++ (Text.of " " ++ plural files "file"))) =
        true := by
      simp only [isPlain_append, isPlain_ofNat, isPlain_plural files "file" (by decide)]
      decide
    have hinside : harmless false (Text.of "✓ Found " ++ Text.ofNat count ++ Text.of " "
        ++ kind.name ++ Text.of " " ++ plural count "reference" ++ Text.of " to " ++ escape symbol
        ++ Text.of " in " ++ Text.ofNat files ++ Text.of " " ++ plural files "file") = true := by
      rw [List.append_assoc _ (Text.of " "), List.append_assoc _ (Text.ofNat files),
        List.append_assoc _ (Text.of " in ")]
      refine harmless_append_plain ?_ hback
      rw [harmless_plain_append hfront]
      exact hescape.harmless symbol
    exact Message.styled (Text.of "\n") "bold green" (by decide) (by decide) hinside (message_size searched)

theorem fit_of_mem_reportAborted (hescape : console.EscapesTags) {cwd : Corpus.Location}
    {path : Text} {offset : Nat} {reason : Reading.Reason} {item : Printed}
    (h : item ∈ reportAborted cwd path offset reason) : item.Fit := by
  unfold reportAborted reportError at h
  rcases List.mem_cons.1 h with rfl | h
  · have hback : isPlain (Text.of " at offset " ++ Text.ofNat offset) = true := by
      rw [isPlain_append, isPlain_ofNat]
      decide
    have hmessage : harmless false (Text.of " malformed input in " ++ escape (Corpus.displayPath cwd path)
        ++ (Text.of " at offset " ++ Text.ofNat offset)) = true := by
      refine harmless_append_plain ?_ hback
      rw [harmless_plain_append (by decide)]
      exact hescape.harmless _
    have hline := Message.styled [] "bold red" (t := Text.of "search aborted:")
      (by decide) (by decide) (by decide) (.harmless hmessage)
    have hshape : styled "bold red" (Text.of "search aborted:") ++ Text.of " " ++
        (Text.of "malformed input in " ++ escape (Corpus.displayPath cwd path) ++ Text.of " at offset "
          ++ Text.ofNat offset) =
        [] ++ styled "bold red" (Text.of "search aborted:") ++ (Text.of " malformed input in "
          ++ escape (Corpus.displayPath cwd path) ++ (Text.of " at offset " ++ Text.ofNat offset)) := by
      simp only [List.append_assoc, List.nil_append]
      rfl
    rw [hshape]
    exact hline
  · rw [List.mem_singleton.1 h]
    have hline := Message.styled [] "dim" (by decide) (by decide)
      (hescape.harmless reason.message) (.harmless (t := []) rfl)
    rwa [List.append_nil] at hline

/-- A warning can be shown unless its path has a slash behind a bracket that opens. -/
theorem fit_reportSkipped (hescape : console.EscapesTags) {cwd : Corpus.Location} {s : Skipped}
    (h : ¬ endMark <:+: Corpus.displayPath cwd s.path) : (reportSkipped cwd s).Fit := by
  let path := escape (Corpus.displayPath cwd s.path)
  let back := Text.of " (offset " ++ Text.ofNat s.offset ++ Text.of ": "
    ++ (escape s.reason.message ++ Text.of ")")
  have hback : ∀ odd, harmless odd back = true := by
    intro odd
    have hplain : isPlain (Text.of "(offset " ++ Text.ofNat s.offset ++ Text.of ": ") = true := by
      rw [isPlain_append, isPlain_append, isPlain_ofNat]
      decide
    have hreason : harmless false (escape s.reason.message ++ Text.of ")") = true :=
      harmless_append_plain (hescape.harmless _) (by decide)
    have hblank : oddAfter odd (Text.of " ") = false := by cases odd <;> decide
    have hshape : back = Text.of " " ++ (Text.of "(offset " ++ Text.ofNat s.offset ++ Text.of ": "
        ++ (escape s.reason.message ++ Text.of ")")) := rfl
    rw [hshape, harmless_skip (by decide), hblank, harmless_plain_append hplain]
    exact hreason
  have hpath : harmless false (path ++ back) = true := by
    refine harmless_append (hescape.harmless _) (hback _) fun a m hm _ => ?_
    -- A tag that the reason closes would begin with a bracket and a slash in the path.
    rw [← Bool.not_eq_true, endsStyle_iff]
    rintro ⟨-, hhead, -⟩
    cases m with
    | nil => cases hhead
    | cons c m =>
      cases hhead
      have hinfix : endMark <:+: path := ⟨a, m, by rw [hm, List.append_assoc]; rfl⟩
      exact h ((hescape.backslashed _).endMark_isInfix hinfix)
  have hline := Message.styled [] "yellow" (t := Text.of "⚠ Skipped") (by decide)
    (by decide) (by decide) (v := Text.of " " ++ (path ++ back))
    (.harmless (by rw [harmless_plain_append (by decide)]; exact hpath))
  have hshape : reportSkipped cwd s =
      .line ([] ++ styled "yellow" (Text.of "⚠ Skipped") ++ (Text.of " " ++ (path ++ back))) := by
    simp only [reportSkipped, path, back, List.append_assoc, List.nil_append]
  rw [hshape]
  exact hline

end

end LispXref.Command
