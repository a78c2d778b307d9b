-- Where reading stands, and how a step of reading can end: with a value and the
-- place to go on from, because the text ran out, or because of a fault.
import LispXref.Reading.Fault

namespace LispXref.Reading

/-! ## Cursors -/

/-- A place in a text: how many characters lie before it, and those after it. -/
structure Cursor where
  pos : Nat
  rest : Text

namespace Cursor

/-- The place with `pos` characters before it. -/
def ofText (text : Text) (pos : Nat) : Cursor := ⟨pos, text.drop pos⟩

/-- Reading forward from one place gets to another. -/
def Reaches (a b : Cursor) : Prop :=
  ∃ taken : Text, a.rest = taken ++ b.rest ∧ b.pos = a.pos + taken.length

/-- Reading forward from one place gets to another and passes a character. -/
def Advances (a b : Cursor) : Prop :=
  ∃ taken : Text, taken ≠ [] ∧ a.rest = taken ++ b.rest ∧ b.pos = a.pos + taken.length

theorem Reaches.refl (a : Cursor) : a.Reaches a := ⟨[], rfl, rfl⟩

theorem Reaches.trans {a b c : Cursor} : a.Reaches b → b.Reaches c → a.Reaches c := by
  rintro ⟨t, ht, hp⟩ ⟨u, hu, hq⟩
  exact ⟨t ++ u, by simp [ht, hu], by simp [hp, hq]; omega⟩

theorem Advances.reaches {a b : Cursor} : a.Advances b → a.Reaches b := by
  rintro ⟨t, _, h⟩
  exact ⟨t, h⟩

theorem Advances.trans_reaches {a b c : Cursor} : a.Advances b → b.Reaches c → a.Advances c := by
  rintro ⟨t, hne, ht, hp⟩ ⟨u, hu, hq⟩
  exact ⟨t ++ u, by simp [hne], by simp [ht, hu], by simp [hp, hq]; omega⟩

theorem Reaches.trans_advances {a b c : Cursor} : a.Reaches b → b.Advances c → a.Advances c := by
  rintro ⟨t, ht, hp⟩ ⟨u, hne, hu, hq⟩
  exact ⟨t ++ u, by simp [hne], by simp [ht, hu], by simp [hp, hq]; omega⟩

theorem Reaches.length_le {a b : Cursor} : a.Reaches b → b.rest.length ≤ a.rest.length := by
  rintro ⟨t, ht, _⟩
  simp [ht]

theorem Advances.length_lt {a b : Cursor} : a.Advances b → b.rest.length < a.rest.length := by
  rintro ⟨t, hne, ht, _⟩
  simp [ht, List.length_pos_iff.2 hne]

/-- Passing characters that are known to come next. -/
theorem reaches_of_rest {cur : Cursor} (taken : Text) {rest : Text} (h : cur.rest = taken ++ rest) :
    cur.Reaches ⟨cur.pos + taken.length, rest⟩ :=
  ⟨taken, h, rfl⟩

/-- Passing one character. -/
theorem advances_cons (pos : Nat) (c : CodePoint) (rest : Text) :
    Advances ⟨pos, c :: rest⟩ ⟨pos + 1, rest⟩ :=
  ⟨[c], by simp, rfl, rfl⟩

/-- Passing the first characters of a text. -/
theorem reaches_drop (pos n : Nat) (rest : Text) (h : n ≤ rest.length) :
    Reaches ⟨pos, rest⟩ ⟨pos + n, rest.drop n⟩ :=
  ⟨rest.take n, by simp, by simp [Nat.min_eq_left h]⟩

/-- Whatever was passed lies inside the text. -/
theorem Advances.bounds {text : Text} {pos : Nat} {next : Cursor}
    (h : (ofText text pos).Advances next) : pos < next.pos ∧ next.pos ≤ text.length := by
  obtain ⟨taken, hne, hrest, hpos⟩ := h
  have hlength := congrArg List.length hrest
  have hlt := List.length_pos_iff.2 hne
  simp only [ofText, List.length_drop, List.length_append] at hlength hpos
  omega

end Cursor

/-! ## Outcomes -/

/-- How a step of reading ends. -/
inductive Outcome (α : Type) where
  /-- A value was read, and reading goes on from a place after it. -/
  | done (value : α) (next : Cursor)
  /-- The text ran out; reading stopped at an offset. -/
  | truncated (stop : Nat)
  /-- The text cannot be read; reading stopped at an offset. -/
  | failed (fault : Fault) (stop : Nat)

/-- How the end of a text inside a form is shown. -/
def truncatedName : Text := Text.of "<truncated>"

namespace Outcome

variable {α β : Type}

/-- Changes the value that was read. -/
def map (f : α → β) : Outcome α → Outcome β
  | .done a next => .done (f a) next
  | .truncated stop => .truncated stop
  | .failed fault stop => .failed fault stop

/-- Goes on after a value. -/
def bind (o : Outcome α) (f : α → Cursor → Outcome β) : Outcome β :=
  match o with
  | .done a next => f a next
  | .truncated stop => .truncated stop
  | .failed fault stop => .failed fault stop

/-- A refusal of the text, with the offset it is reported at. -/
def malformed (offset : Nat) (reason : Reason) (stop : Nat) : Outcome α :=
  .failed (.malformed offset reason) stop

theorem map_eq_done {f : α → β} {o : Outcome α} {b : β} {next : Cursor} :
    o.map f = .done b next ↔ ∃ a, o = .done a next ∧ f a = b := by
  cases o with
  | done a mid =>
    simp only [map, done.injEq]
    exact ⟨fun ⟨hf, hn⟩ => ⟨a, ⟨rfl, hn⟩, hf⟩, fun ⟨_, ⟨ha, hn⟩, hf⟩ => ⟨ha ▸ hf, hn⟩⟩
  | truncated stop => simp [map]
  | failed fault stop => simp [map]

theorem bind_eq_done {o : Outcome α} {f : α → Cursor → Outcome β} {b : β} {next : Cursor} :
    o.bind f = .done b next ↔ ∃ a mid, o = .done a mid ∧ f a mid = .done b next := by
  cases o with
  | done a mid =>
    simp only [bind, done.injEq]
    exact ⟨fun h => ⟨a, mid, ⟨rfl, rfl⟩, h⟩, fun ⟨_, _, ⟨ha, hm⟩, h⟩ => by rw [ha, hm]; exact h⟩
  | truncated stop => simp [bind]
  | failed fault stop => simp [bind]

theorem bind_of_done {o : Outcome α} {a : α} {mid : Cursor} (h : o = .done a mid)
    (f : α → Cursor → Outcome β) : o.bind f = f a mid := by rw [h, bind]

theorem bind_of_truncated {o : Outcome α} {stop : Nat} (h : o = .truncated stop)
    (f : α → Cursor → Outcome β) : o.bind f = .truncated stop := by rw [h, bind]

theorem bind_of_failed {o : Outcome α} {fault : Fault} {stop : Nat} (h : o = .failed fault stop)
    (f : α → Cursor → Outcome β) : o.bind f = .failed fault stop := by rw [h, bind]

/-- Whatever is read, reading got there from the given place. -/
def From (start : Cursor) (o : Outcome α) : Prop :=
  ∀ a next, o = .done a next → start.Reaches next

/-- Whatever is read, reading got there from the given place and passed a
character. -/
def After (start : Cursor) (o : Outcome α) : Prop :=
  ∀ a next, o = .done a next → start.Advances next

theorem From.done (a : α) (cur : Cursor) : (Outcome.done a cur).From cur := by
  rintro _ _ ⟨⟩
  exact .refl _

theorem From.truncated (start : Cursor) (stop : Nat) :
    (Outcome.truncated stop : Outcome α).From start := nofun

theorem From.failed (start : Cursor) (fault : Fault) (stop : Nat) :
    (Outcome.failed fault stop : Outcome α).From start := nofun

theorem From.malformed (start : Cursor) (offset : Nat) (reason : Reason) (stop : Nat) :
    (Outcome.malformed offset reason stop : Outcome α).From start := nofun

theorem From.of_reaches {a b : Cursor} {o : Outcome α} (h : o.From b) (hab : a.Reaches b) :
    o.From a :=
  fun v next hv => hab.trans (h v next hv)

theorem From.after {a b : Cursor} {o : Outcome α} (h : o.From b) (hab : a.Advances b) :
    o.After a :=
  fun v next hv => hab.trans_reaches (h v next hv)

theorem After.truncated (start : Cursor) (stop : Nat) :
    (Outcome.truncated stop : Outcome α).After start := nofun

theorem After.failed (start : Cursor) (fault : Fault) (stop : Nat) :
    (Outcome.failed fault stop : Outcome α).After start := nofun

theorem From.map {start : Cursor} {o : Outcome α} (h : o.From start) (f : α → β) :
    (o.map f).From start := by
  intro b next hb
  obtain ⟨a, ha, _⟩ := map_eq_done.1 hb
  exact h a next ha

theorem From.bind {start : Cursor} {o : Outcome α}
    {f : α → Cursor → Outcome β} (h : o.From start) (hf : ∀ a mid, (f a mid).From mid) :
    (o.bind f).From start := by
  intro b next hb
  obtain ⟨a, mid, ha, hn⟩ := bind_eq_done.1 hb
  exact (h a mid ha).trans (hf a mid b next hn)

theorem After.bind {start : Cursor} {o : Outcome α}
    {f : α → Cursor → Outcome β} (h : o.After start) (hf : ∀ a mid, (f a mid).From mid) :
    (o.bind f).After start := by
  intro b next hb
  obtain ⟨a, mid, ha, hn⟩ := bind_eq_done.1 hb
  exact (h a mid ha).trans_reaches (hf a mid b next hn)

theorem From.ite {start : Cursor} {p : Prop} [Decidable p] {a b : Outcome α}
    (ha : p → a.From start) (hb : ¬p → b.From start) : (if p then a else b).From start := by
  split
  · rename_i h
    exact ha h
  · rename_i h
    exact hb h

theorem After.ite {start : Cursor} {p : Prop} [Decidable p] {a b : Outcome α}
    (ha : p → a.After start) (hb : ¬p → b.After start) : (if p then a else b).After start := by
  split
  · rename_i h
    exact ha h
  · rename_i h
    exact hb h

end Outcome

end LispXref.Reading
