-- One loader of files that set environment variables, for examples. A line `NAME=value` sets
-- a variable; a value between quotation marks may go on over several lines. A line that
-- cannot be read is passed over. Loading a file sets the variables that are not set yet.
-- What is proved about configurations holds for other loaders too.
import LispXref.Config.Environment
import LispXref.Text.Newline
import LispXref.Text.Space

namespace LispXref.Config.SettingsFile

/-! ## Values -/

/-- White space within a line. -/
def isInlineSpace (c : CodePoint) : Bool := c.isSpace && c ≠ '\n'

/-- Splits behind the closing quotation mark: what is quoted, and what follows. A mark
behind a backslash closes only if no later mark does. -/
def splitQuoted? (mark : CodePoint) : Text → Option (Text × Text)
  | [] => none
  | c :: rest =>
    if c = mark then some ([], rest)
    else match rest with
      | [] => none
      | d :: more =>
        if c = '\\' ∧ d = mark then
          match splitQuoted? mark more with
          | some (inside, after) => some (c :: d :: inside, after)
          | none => some ([c], more)
        else (splitQuoted? mark (d :: more)).map fun found => (c :: found.1, found.2)

/-- Escapes between single quotation marks. -/
def singleEscapes : List (CodePoint × CodePoint) := [('\\', '\\'), ('\x27', '\x27')]

/-- Escapes between double quotation marks. -/
def doubleEscapes : List (CodePoint × CodePoint) :=
  [('\\', '\\'), ('\x27', '\x27'), ('\x22', '\x22'), ('a', '\x07'), ('b', '\x08'), ('f', '\x0c'),
   ('n', '\n'), ('r', '\r'), ('t', '\t'), ('v', '\x0b')]

/-- The text with its escapes replaced; a backslash before anything else stays. -/
def unescape (escapes : List (CodePoint × CodePoint)) : Text → Text
  | c :: d :: rest =>
    match (if c = '\\' then escapes.lookup d else none) with
    | some e => e :: unescape escapes rest
    | none => c :: unescape escapes (d :: rest)
  | t => t

/-- Cuts off a comment: a `#` after white space, with that white space. -/
def dropComment : Text → Text
  | [] => []
  | c :: rest =>
    if c.isSpace && (rest.dropWhile CodePoint.isSpace).head? = some (CodePoint.ofChar '#') then []
    else c :: dropComment rest

/-- The rest of the line. -/
def lineRest (t : Text) : Text := t.takeWhile (· ≠ CodePoint.ofChar '\n')

/-- The value behind an equals sign, and what follows it: between quotation marks, if
there is one behind the blanks, or else up to a comment or the end of the line. The
blanks are white space before a comment too, so a value can be nothing but a comment
and is empty then. -/
def valueAt? (t : Text) : Option (Text × Text) :=
  match t.dropWhile isInlineSpace with
  | [] => some ([], [])
  | c :: rest =>
    if c = '\x27' then (splitQuoted? c rest).map fun found => (unescape singleEscapes found.1, found.2)
    else if c = '\x22' then
      (splitQuoted? c rest).map fun found => (unescape doubleEscapes found.1, found.2)
    else
      let line := lineRest t
      some ((dropComment line).trim, t.drop line.length)

/-! ## Bindings -/

/-- A variable with the value it is given; without an equals sign it has none. -/
structure Binding where
  name : Text
  value : Option Text

/-- Drops the word `export` in front of a name. -/
def dropExport (t : Text) : Text :=
  if t.startsWith (Text.of "export") && (t.drop 6).head?.any isInlineSpace then
    (t.drop 6).dropWhile isInlineSpace
  else t

/-- The characters of a name without quotation marks. -/
def isNameCharacter (c : CodePoint) : Bool := !(c = '=' || c = '#' || c.isSpace)

/-- The name up to a closing quotation mark, and what follows the mark. -/
def quotedNameAt? (t : Text) : Option (Text × Text) :=
  let name := t.takeWhile (· ≠ CodePoint.ofChar '\x27')
  match t.drop name.length with
  | [] => none
  | _ :: after => if name.isEmpty then none else some (name, after)

/-- The name at the start of a text, and what follows it. A name is not empty. -/
def nameAt? (t : Text) : Option (Text × Text) :=
  if t.head? = some (CodePoint.ofChar '\x27') then quotedNameAt? (t.drop 1)
  else
    let name := t.takeWhile isNameCharacter
    if name.isEmpty then none else some (name, t.drop name.length)

/-- What is bound at the start of a text, if anything, and where reading stopped. -/
def bindingAt (t : Text) : Option Binding × Text :=
  let start := dropExport t
  match nameAt? start with
  | none => (none, start)
  | some (name, after) =>
    match after.dropWhile isInlineSpace with
    | [] => (some ⟨name, none⟩, [])
    | c :: rest =>
      if c = '=' then
        match valueAt? rest with
        | none => (none, rest)
        | some (value, after) => (some ⟨name, some value⟩, after)
      else (some ⟨name, none⟩, c :: rest)

/-- Nothing but white space or a comment comes before the end of the line. -/
def endsLine (t : Text) : Bool :=
  match t.dropWhile isInlineSpace with
  | [] => true
  | c :: _ => c = '\n' || c = '#'

/-- What follows the line. -/
def nextLine (t : Text) : Text := t.drop ((lineRest t).length + 1)

theorem splitQuoted?_length {mark : CodePoint} {t inside after : Text}
    (h : splitQuoted? mark t = some (inside, after)) : after.length ≤ t.length := by
  fun_induction splitQuoted? mark t generalizing inside after with
  | case1 => cases h
  | case2 => cases h; simp
  | case3 => cases h
  | case4 c hc d more hd inner rest hi ih =>
    cases h
    have := ih hi
    simp only [List.length_cons]
    omega
  | case5 => cases h; simp only [List.length_cons]; omega
  | case6 c hc d more hd ih =>
    obtain ⟨found, hf, he⟩ := Option.map_eq_some_iff.1 h
    cases he
    exact Nat.le_succ_of_le (ih hf)

theorem length_dropWhile_le {p : CodePoint → Bool} (t : Text) : (t.dropWhile p).length ≤ t.length :=
  (List.dropWhile_sublist p).length_le

theorem dropExport_length (t : Text) : (dropExport t).length ≤ t.length := by
  unfold dropExport
  split
  · exact Nat.le_trans (length_dropWhile_le _) (by simp)
  · exact Nat.le_refl _

theorem quotedNameAt?_length {t name after : Text} (h : quotedNameAt? t = some (name, after)) :
    after.length ≤ t.length := by
  unfold quotedNameAt? at h
  dsimp only at h
  split at h
  · cases h
  · rename_i c rest hr
    have hl := congrArg List.length hr
    simp only [List.length_drop, List.length_cons] at hl
    split at h
    · cases h
    · simp only [Option.some.injEq, Prod.mk.injEq] at h
      rw [← h.2]
      omega

theorem nameAt?_length {t name after : Text} (h : nameAt? t = some (name, after)) :
    after.length ≤ t.length := by
  unfold nameAt? at h
  dsimp only at h
  split at h
  · have := quotedNameAt?_length h
    simp only [List.length_drop] at this
    omega
  · split at h
    · cases h
    · simp only [Option.some.injEq, Prod.mk.injEq] at h
      simp [← h.2]

theorem valueAt?_length {t value after : Text} (h : valueAt? t = some (value, after)) :
    after.length ≤ t.length := by
  have hd := length_dropWhile_le (p := isInlineSpace) t
  unfold valueAt? at h
  split at h
  · cases h; simp
  · rename_i c rest hr
    rw [hr, List.length_cons] at hd
    split at h
    · obtain ⟨found, hf, he⟩ := Option.map_eq_some_iff.1 h
      cases he
      have := splitQuoted?_length hf
      omega
    · split at h
      · obtain ⟨found, hf, he⟩ := Option.map_eq_some_iff.1 h
        cases he
        have := splitQuoted?_length hf
        omega
      · cases h
        simp

/-- Reading a binding does not go back. -/
theorem bindingAt_length (t : Text) : (bindingAt t).2.length ≤ t.length := by
  have hs := dropExport_length t
  unfold bindingAt
  dsimp only
  split
  · exact hs
  · rename_i name after hn
    have ha := nameAt?_length hn
    split
    · simp
    · rename_i c rest hr
      have hd := length_dropWhile_le (p := isInlineSpace) after
      rw [hr, List.length_cons] at hd
      split
      · split
        · dsimp only; omega
        · rename_i value after' hv
          have := valueAt?_length hv
          dsimp only; omega
      · simp only [List.length_cons]; omega

/-- The bindings of a file, in order. -/
def bindingsIn (file : Text) : List Binding :=
  match _h : file.dropWhile CodePoint.isSpace with
  | [] => []
  | c :: rest =>
    let found := bindingAt (c :: rest)
    let binding := if endsLine found.2 then found.1 else none
    binding.toList ++ bindingsIn (nextLine found.2)
termination_by file.length
decreasing_by
  have hl := length_dropWhile_le (p := CodePoint.isSpace) file
  have hb := bindingAt_length (c :: rest)
  rw [_h, List.length_cons] at hl
  simp only [nextLine, List.length_drop, List.length_cons] at hb ⊢
  omega

/-! ## Variables in values -/

/-- A variable in a value, behind its `${`: its name, what stands for it if it is not
set, and what follows it. -/
def variableAt? (t : Text) : Option (Text × Text × Text) :=
  let name := t.takeWhile fun (c : CodePoint) => !(c = '\x7d' || c = ':')
  match t.drop name.length with
  | [] => none
  | c :: rest =>
    if c = '\x7d' then some (name, [], rest)
    else match rest with
      | [] => none
      | d :: more =>
        let default := more.takeWhile (· ≠ CodePoint.ofChar '\x7d')
        match more.drop default.length with
        | [] => none
        | _ :: after => if d = '-' then some (name, default, after) else none

theorem variableAt?_length {t name default after : Text}
    (h : variableAt? t = some (name, default, after)) : after.length ≤ t.length := by
  unfold variableAt? at h
  dsimp only at h
  split at h
  · cases h
  · rename_i c rest hr
    have hl := congrArg List.length hr
    simp only [List.length_drop, List.length_cons] at hl
    split at h
    · simp only [Option.some.injEq, Prod.mk.injEq] at h
      rw [← h.2.2]
      omega
    · split at h
      · cases h
      · rename_i d more
        simp only [List.length_cons] at hl
        split at h
        · cases h
        · rename_i close rest' hm
          have hm := congrArg List.length hm
          simp only [List.length_drop, List.length_cons] at hm
          split at h
          · simp only [Option.some.injEq, Prod.mk.injEq] at h
            rw [← h.2.2]
            omega
          · cases h

/-- The value with every variable in it replaced. -/
def expand (value? : Text → Option Text) (t : Text) : Text :=
  match t with
  | [] => []
  | c :: rest =>
    match _h : (if c = '$' ∧ rest.head? = some (CodePoint.ofChar '\x7b') then variableAt? (rest.drop 1)
        else none) with
    | some (name, default, after) => (value? name).getD default ++ expand value? after
    | none => c :: expand value? rest
termination_by t.length
decreasing_by
  · split at _h
    · have := variableAt?_length _h
      simp only [List.length_drop, List.length_cons] at this ⊢
      omega
    · cases _h
  · simp

/-- The value of a variable for later values: the one that is set, else the one that
the file gave last. A name without a value counts as empty. -/
def value? (env : Environment) (earlier : List Binding) (name : Text) : Option Text :=
  match env.get? name with
  | some v => some v
  | none => (earlier.find? fun b => b.name = name).map fun b => b.value.getD []

/-- The bindings with the variables in their values replaced, the last one first. -/
def resolve (env : Environment) (bs : List Binding) : List Binding :=
  bs.foldl (fun earlier b => { b with value := b.value.map (expand (value? env earlier)) } :: earlier) []

/-- The first binding of every name. -/
def firstOfName : List Binding → List Binding
  | [] => []
  | b :: others => b :: (firstOfName others).filter fun o => o.name ≠ b.name

/-! ## Loading -/

/-- Sets the variable of a binding unless it is set already. A name without a value sets
nothing. -/
def insertBinding (env : Environment) (b : Binding) : Environment :=
  match b.value with
  | some v => env.insertNew b.name v
  | none => env

/-- The bindings of a file, the last one first. -/
def bindings (env : Environment) (file : Text) : List Binding :=
  resolve env (bindingsIn file.unifyNewlines)

/-- The value that bindings give a variable: the first one of its name counts. -/
def valueOf? (bs : List Binding) (name : Text) : Option Text :=
  (bs.find? fun b => b.name = name).bind Binding.value

/-- The value that a file gives a variable. -/
def given? (env : Environment) (file name : Text) : Option Text := valueOf? (bindings env file) name

/-- Sets the variables of a file that are not set yet. Of two bindings of the same
name the later one counts. -/
def load (env : Environment) (file : Text) : Environment :=
  (firstOfName (bindings env file)).foldl insertBinding env

/-- The loader of such files. -/
scoped instance loader : Loader := ⟨given?, load⟩

end LispXref.Config.SettingsFile
