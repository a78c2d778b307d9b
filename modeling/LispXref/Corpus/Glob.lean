-- Patterns for file names: `*` stands for any characters, `?` for one, and
-- brackets for one of several. A pattern with slashes is matched name by name;
-- `**` as a whole name stands for any number of directories, and `..` for the parent.
import LispXref.Text.Basic

namespace LispXref.Corpus.Glob

/-! ## One name -/

/-- A part of a pattern. -/
inductive Item where
  /-- Any characters, also none. -/
  | many
  /-- One character. -/
  | any
  | literal (c : CodePoint)
  /-- One character inside, or with `negated` outside, the ranges. -/
  | oneOf (negated : Bool) (ranges : List (CodePoint × CodePoint))

/-- The ranges between brackets: `a-z` or single characters. -/
def ranges : Text → List (CodePoint × CodePoint)
  | [] => []
  | a :: dash :: b :: rest =>
    if dash = '-' then (a, b) :: ranges rest else (a, a) :: ranges (dash :: b :: rest)
  | a :: rest => (a, a) :: ranges rest

/-- The end of a text from its first closing bracket on, and what is before it. -/
def splitAtCloser (t : Text) : Option (Text × Text) :=
  let body := t.takeWhile (· ≠ CodePoint.ofChar ']')
  match t.drop body.length with
  | [] => none
  | _ :: rest => some (body, rest)

/-- What an opening bracket starts. A closing bracket right after it, or after its
`!`, is one of the characters. Without a closing bracket it starts nothing. -/
def bracket? (t : Text) : Option (Item × Text) :=
  let negated := t.head? = some (CodePoint.ofChar '!')
  let inside := if negated then t.drop 1 else t
  let first := if inside.head? = some (CodePoint.ofChar ']') then inside.take 1 else []
  (splitAtCloser (inside.drop first.length)).map fun found =>
    (.oneOf negated (ranges (first ++ found.1)), found.2)

theorem splitAtCloser_length {t body rest : Text} (h : splitAtCloser t = some (body, rest)) :
    rest.length < t.length := by
  unfold splitAtCloser at h
  dsimp only at h
  split at h
  · cases h
  · rename_i c r hd
    simp only [Option.some.injEq, Prod.mk.injEq] at h
    have hl := congrArg List.length hd
    simp only [List.length_drop, List.length_cons, h.2] at hl
    omega

theorem bracket?_length {t rest : Text} {item : Item} (h : bracket? t = some (item, rest)) :
    rest.length < t.length := by
  unfold bracket? at h
  dsimp only at h
  obtain ⟨⟨body, r⟩, hs, he⟩ := Option.map_eq_some_iff.1 h
  have hr := splitAtCloser_length hs
  simp only [Prod.mk.injEq] at he
  rw [← he.2]
  have hi : (if t.head? = some (CodePoint.ofChar '!') then t.drop 1 else t).length ≤ t.length := by
    split <;> simp
  simp only [List.length_drop] at hr
  omega

/-- Reads a pattern for one name. -/
def parse (t : Text) : List Item :=
  match t with
  | [] => []
  | c :: rest =>
    if c = '*' then .many :: parse rest
    else if c = '?' then .any :: parse rest
    else if c = '[' then
      match _h : bracket? rest with
      | some (item, after) => item :: parse after
      | none => .literal c :: parse rest
    else .literal c :: parse rest
termination_by t.length
decreasing_by
  all_goals simp only [List.length_cons]
  · omega
  · omega
  · have := bracket?_length _h
    omega
  · omega
  · omega

/-- The ends of a list, the list itself first. -/
def suffixes {α : Type} : List α → List (List α)
  | [] => [[]]
  | a :: as => (a :: as) :: suffixes as

/-- Whether a name fits a pattern. -/
def fits : List Item → Text → Bool
  | [], t => t.isEmpty
  | .many :: items, t => (suffixes t).any fun rest => fits items rest
  | _ :: _, [] => false
  | .any :: items, _ :: rest => fits items rest
  | .literal c :: items, d :: rest => c = d && fits items rest
  | .oneOf negated rs :: items, d :: rest =>
    (rs.any (fun r => decide (r.1.val ≤ d.val ∧ d.val ≤ r.2.val)) != negated) && fits items rest

/-! ## Whole paths -/

/-- A name of a path pattern. -/
inductive Level where
  /-- Any number of directories. -/
  | anyDepth
  | name (items : List Item)
  /-- The directory above. -/
  | parent
  /-- The pattern ends in a slash and asks for a directory. -/
  | directory

/-- The one reason why a path pattern is refused. -/
inductive Error where
  /-- Two stars are only part of a name. -/
  | partialStars
  deriving DecidableEq

def Error.message : Error → Text
  | .partialStars => Text.of "Invalid pattern: '**' can only be an entire path component"

/-- Whether two stars stand side by side. -/
def hasDoubleStar : Text → Bool
  | a :: b :: rest => (a = '*' && b = '*') || hasDoubleStar (b :: rest)
  | _ => false

def level (name : Text) : Except Error Level :=
  if name = Text.of "**" then .ok .anyDepth
  else if name = Text.of ".." then .ok .parent
  else if hasDoubleStar name then .error .partialStars
  else .ok (.name (parse name))

/-- Reads a pattern for paths at any depth below a directory. -/
def parsePath (t : Text) : Except Error (List Level) :=
  let names := (Text.splitAt '/' t).filter fun name => !name.isEmpty && name ≠ Text.of "."
  match names.mapM level with
  | .error e => .error e
  | .ok levels =>
    let last := if t.getLast? = some (CodePoint.ofChar '/') then [Level.directory] else []
    .ok (.anyDepth :: levels ++ last)

end LispXref.Corpus.Glob
