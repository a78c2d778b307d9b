-- Stand-ins for glyphs. Main statement: the glyphs are replaced one after the other in the whole
-- text, and that comes to replacing every character on its own. So the order of the glyphs
-- does not matter, texts may be replaced in parts, and nothing is left to replace.
import LispXref.Proofs.Glyphs

namespace LispXref.Terminal

/-- A text in which the glyphs of a map are replaced one after the other. -/
def replaceInTurn (map : List (CodePoint × Text)) (t : Text) : Text :=
  map.foldl (fun t icon => t.substitute icon.1 icon.2) t

/-- What stands for a character: what the map has for it, or the character itself. -/
def standIn (map : List (CodePoint × Text)) (c : CodePoint) : Text := (map.lookup c).getD [c]

theorem standIn_cons (icon : CodePoint × Text) (map : List (CodePoint × Text)) (c : CodePoint) :
    standIn (icon :: map) c = if c = icon.1 then icon.2 else standIn map c := by
  unfold standIn
  rw [List.lookup_cons]
  by_cases h : c = icon.1
  · rw [if_pos h, beq_iff_eq.2 h]
    rfl
  · rw [if_neg h, beq_eq_false_iff_ne.2 h]

theorem standIn_of_ne {map : List (CodePoint × Text)} {c : CodePoint}
    (h : ∀ icon ∈ map, icon.1 ≠ c) : standIn map c = [c] := by
  induction map with
  | nil => rfl
  | cons icon map ih =>
    obtain ⟨hicon, hmap⟩ := List.forall_mem_cons.1 h
    rw [standIn_cons, if_neg (Ne.symm hicon), ih hmap]

theorem flatMap_standIn_of_not_mem {map : List (CodePoint × Text)} {t : Text}
    (h : ∀ icon ∈ map, icon.1 ∉ t) : t.flatMap (standIn map) = t := by
  have hself : ∀ c ∈ t, standIn map c = [c] := fun c hc =>
    standIn_of_ne fun icon hicon heq => h icon hicon (heq ▸ hc)
  rw [List.flatMap_congr hself]
  exact List.flatMap_singleton' t

/-- No replacement has a glyph that is replaced. -/
def Separate (map : List (CodePoint × Text)) : Prop :=
  ∀ replaced ∈ map, ∀ icon ∈ map, icon.1 ∉ replaced.2

instance (map : List (CodePoint × Text)) : Decidable (Separate map) :=
  inferInstanceAs (Decidable (∀ replaced ∈ map, ∀ icon ∈ map, icon.1 ∉ replaced.2))

theorem Separate.perm {map order : List (CodePoint × Text)} (h : Separate map)
    (hp : order.Perm map) : Separate order :=
  fun replaced hr icon hi => h replaced (hp.mem_iff.1 hr) icon (hp.mem_iff.1 hi)

/-- What a glyph was replaced by is left alone by the later glyphs, so each character is
replaced on its own. -/
theorem replaceInTurn_eq_flatMap {map : List (CodePoint × Text)} (h : Separate map) (t : Text) :
    replaceInTurn map t = t.flatMap (standIn map) := by
  induction map generalizing t with
  | nil => exact (List.flatMap_singleton' t).symm
  | cons icon map ih =>
    have hrest : Separate map := fun replaced hr other ho =>
      h replaced (List.mem_cons_of_mem _ hr) other (List.mem_cons_of_mem _ ho)
    have hplain : icon.2.flatMap (standIn map) = icon.2 := flatMap_standIn_of_not_mem fun other ho =>
      h icon List.mem_cons_self other (List.mem_cons_of_mem _ ho)
    calc replaceInTurn (icon :: map) t
        = (t.substitute icon.1 icon.2).flatMap (standIn map) := ih hrest _
      _ = t.flatMap fun c => (if c = icon.1 then icon.2 else [c]).flatMap (standIn map) :=
          List.flatMap_assoc
      _ = t.flatMap (standIn (icon :: map)) := by
          refine List.flatMap_congr fun c _ => ?_
          rw [standIn_cons]
          split
          · exact hplain
          · exact List.flatMap_singleton _ _

/-- Where no glyph has two replacements, the order of the map does not matter. -/
theorem standIn_perm {map order : List (CodePoint × Text)} (h : order.Perm map)
    (hone : (order.map Prod.fst).Nodup) (c : CodePoint) : standIn order c = standIn map c := by
  induction h with
  | nil => rfl
  | cons icon _ ih =>
    rw [List.map_cons, List.nodup_cons] at hone
    rw [standIn_cons, standIn_cons, ih hone.2]
  | swap icon other map =>
    have hne : other.1 ≠ icon.1 := by
      rw [List.map_cons, List.map_cons, List.nodup_cons] at hone
      exact fun heq => hone.1 (heq ▸ List.mem_cons_self)
    simp only [standIn_cons]
    by_cases hc : c = other.1
    · rw [if_pos hc, if_pos hc, if_neg (hc ▸ hne)]
    · rw [if_neg hc, if_neg hc]
  | trans h₁ _ ih₁ ih₂ => rw [ih₁ hone, ih₂ ((h₁.map _).nodup_iff.1 hone)]

theorem separate_icons : Separate icons := by decide

theorem sanitize_force (encoding text : Text) :
    sanitize encoding true text = text.flatMap (standIn icons) :=
  replaceInTurn_eq_flatMap separate_icons text

theorem not_mem_sanitize_force (encoding text : Text) :
    ∀ icon ∈ icons, icon.1 ∉ sanitize encoding true text := fun icon hicon hmem =>
  Bool.eq_false_iff.1 (hasIcon_eq_false_iff.1 (hasIcon_replaceIcons text) icon.1 hmem)
    (isIcon_iff.2 ⟨icon, hicon, rfl⟩)

theorem sanitize_force_of_not_mem (encoding : Text) {text : Text}
    (h : ∀ icon ∈ icons, icon.1 ∉ text) : sanitize encoding true text = text := by
  rw [sanitize_force, flatMap_standIn_of_not_mem h]

/-- Where glyphs are replaced in any case, each character is replaced on its own. So a text may
be replaced in parts and the glyphs in any order, no glyph is left, a second time changes
nothing, and neither does the first where there is no glyph. -/
theorem sanitize_simultaneous (encoding : Text) :
    (∀ text, sanitize encoding true text = text.flatMap (standIn icons)) ∧
    (∀ u v, sanitize encoding true (u ++ v) =
      sanitize encoding true u ++ sanitize encoding true v) ∧
    (∀ order, order.Perm icons → ∀ text,
      replaceInTurn order text = sanitize encoding true text ∧
        text.flatMap (standIn order) = sanitize encoding true text) ∧
    (∀ text, ∀ icon ∈ icons, icon.1 ∉ sanitize encoding true text) ∧
    (∀ text, sanitize encoding true (sanitize encoding true text) = sanitize encoding true text) ∧
    ∀ text, (∀ icon ∈ icons, icon.1 ∉ text) → sanitize encoding true text = text := by
  refine ⟨sanitize_force encoding, fun u v => ?_, fun order horder text => ?_,
    not_mem_sanitize_force encoding, fun text => ?_, fun text h => sanitize_force_of_not_mem encoding h⟩
  · simp only [sanitize_force, List.flatMap_append]
  · have hone : (order.map Prod.fst).Nodup := (horder.map _).nodup_iff.2 (by decide)
    have hsame : standIn order = standIn icons := funext (standIn_perm horder hone)
    rw [replaceInTurn_eq_flatMap (separate_icons.perm horder), hsame, sanitize_force]
    exact ⟨rfl, rfl⟩
  · exact sanitize_force_of_not_mem encoding (not_mem_sanitize_force encoding text)

theorem sanitize_simultaneous_reversed :
    sanitize (Text.of "utf-8") true (Text.of "✓ f…") = Text.of "[OK] f..." ∧
    replaceInTurn icons.reverse (Text.of "✓ f…") = Text.of "[OK] f..." ∧
    CodePoint.ofChar '…' ∉ sanitize (Text.of "utf-8") true (Text.of "✓ f…") ∧
    sanitize (Text.of "utf-8") true (Text.of "[OK] f...") = Text.of "[OK] f..." := by
  have hvalue : sanitize (Text.of "utf-8") true (Text.of "✓ f…") = Text.of "[OK] f..." := by decide
  obtain ⟨_, _, horder, hgone, _, hplain⟩ := sanitize_simultaneous (Text.of "utf-8")
  exact ⟨hvalue, ((horder _ icons.reverse_perm _).1).trans hvalue,
    hgone _ (CodePoint.ofChar '…', Text.of "...") (by decide), hplain _ (by decide)⟩

end LispXref.Terminal
