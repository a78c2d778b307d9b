-- Walking a form for references. The walk goes down from a form to its children,
-- works out their spans only when a child may matter, and does not go below a
-- form that is accepted. Dotted lists are not descended into.
import LispXref.ChildSpans
import LispXref.Kind

namespace LispXref

open Reading

variable [CharacterNames]

/-- A form found in a text. -/
structure Match where
  span : Span
  form : Form
  deriving DecidableEq

/-- A form that the walk looked at. -/
structure Visit where
  form : Form
  span : Span
  path : Path
  accepted : Bool

/-- Only compounds and the symbol itself can be or contain a reference. -/
def Form.mayMatter (target : Symbol) (f : Form) : Bool := f.isCompound || f.isSymbol target

/-- The spans of a compound's items, worked out only if one of the items may
matter; otherwise no item gets a span. -/
def neededSpans (text : Text) (target : Symbol) (items : List Form) (span : Span) :
    Except Fault (List Span) :=
  if items.any (·.mayMatter target) then childSpans text span else .ok []

mutual

/-- The forms that the walk looks at, in the order of the text. `accepts` decides
which are references. -/
def visits (text : Text) (target : Symbol) (accepts : Form → Path → Bool)
    (f : Form) (span : Span) (path : Path) : Except Fault (List Visit) :=
  if accepts f path then .ok [⟨f, span, path, true⟩]
  else match f with
    | .list items | .vector _ items =>
      match neededSpans text target items span with
      | .ok spans =>
        (visitsItems text target accepts items spans f.operator? 0 path).map (⟨f, span, path, false⟩ :: ·)
      | .error fault => .error fault
    | _ => .ok [⟨f, span, path, false⟩]

/-- The forms that the walk looks at in items with known spans, the first of them
at an index of the compound. Items without a span are passed over. -/
def visitsItems (text : Text) (target : Symbol) (accepts : Form → Path → Bool)
    (items : List Form) (spans : List Span) (operator : Option Symbol) (index : Nat) (path : Path) :
    Except Fault (List Visit) :=
  match items, spans with
  | f :: fs, s :: ss =>
    let here : Except Fault (List Visit) :=
      if f.mayMatter target then visits text target accepts f s (⟨operator, index⟩ :: path) else .ok []
    match here with
    | .ok found => (visitsItems text target accepts fs ss operator (index + 1) path).map (found ++ ·)
    | .error fault => .error fault
  | _, _ => .ok []

end

/-- The references under a form: the accepted forms that the walk looks at. -/
def walk (text : Text) (target : Symbol) (rule : Rule) (f : Form) (span : Span) (path : Path) :
    Except Fault (List Match) :=
  (visits text target (rule target) f span path).map fun found =>
    (found.filter (·.accepted)).map fun v => ⟨v.span, v.form⟩

end LispXref
