-- The kinds of reference that can be looked for, and the rule of each: whether a
-- form, seen among its ancestors, is a reference to a symbol. A rule looks at the
-- innermost two or three ancestors only, so it does not know of bindings further
-- out.
import LispXref.Form
import LispXref.Text.Quoted

namespace LispXref

/-! ## Ancestors -/

/-- One ancestor of a form: its operator, and at which index of it the way to the
form goes on. -/
structure Frame where
  operator : Option Symbol
  index : Int
  deriving DecidableEq

/-- The ancestors of a form, the innermost first. -/
abbrev Path := List Frame

/-- The operators whose item at index 2 is a parameter list. -/
def definers : List Symbol := [.named "defun", .named "defsubst", .named "defmacro"]

/-- The operators whose item at index 1 is a list of bindings. -/
def binders : List Symbol := [.named "let", .named "let*"]

/-- The places of parameter lists. -/
def parameterSlots : List Frame := definers.map fun s => ⟨some s, 2⟩

/-- The places of binding lists. -/
def bindingSlots : List Frame := binders.map fun s => ⟨some s, 1⟩

/-- Whether the ancestor at a depth, counted from the innermost, is one of the
given places. -/
def Path.isAt (path : Path) (depth : Nat) (slots : List Frame) : Bool :=
  match path[depth]? with
  | some frame => frame ∈ slots
  | none => false

/-- A list here is a parameter list, a binding list or a binding, not a call. -/
def Path.inBindingPosition (path : Path) : Bool :=
  path.isAt 0 parameterSlots || path.isAt 0 bindingSlots || path.isAt 1 bindingSlots

/-! ## Rules -/

/-- A rule for references to a symbol. -/
abbrev Rule := Symbol → Form → Path → Bool

/-- Calls `(target …)`, `(funcall 'target …)` and `(apply 'target …)`, and the
function `#'target`, except in binding position. -/
def isFunctionReference (target : Symbol) (f : Form) (path : Path) : Bool :=
  match f.listItems with
  | [] => false
  | head :: arguments =>
    if path.inBindingPosition then false
    else if head.isSymbol target then true
    else match arguments with
      | [] => false
      | first :: others =>
        if head.isSymbol (.named "funcall") || head.isSymbol (.named "apply") then
          first.isQuoted target
        else
          head.isSymbol Shorthand.function.head && f.isProperList && first.isSymbol target
            && others.isEmpty

/-- Calls `(target …)`, except in binding position. -/
def isCall (target : Symbol) (f : Form) (path : Path) : Bool :=
  f.operator? = some target && !path.inBindingPosition

/-- The bare symbol, unless it heads a call. As the first item of a binding list or
of a binding it counts. -/
def isVariableReference (target : Symbol) (f : Form) (path : Path) : Bool :=
  f.isSymbol target
    && (path[0]? ≠ some ⟨some target, 0⟩ || path.isAt 1 bindingSlots || path.isAt 2 bindingSlots)

/-! ## Kinds -/

/-- The kinds of reference. -/
inductive Kind where
  | function
  | macroCall
  | specialForm
  | variableUse
  /-- Every token of the symbol, whatever its role. -/
  | symbol
  deriving DecidableEq

namespace Kind

def all : List Kind := [.function, .macroCall, .specialForm, .variableUse, .symbol]

/-- The name of a kind, as a user gives it. -/
def name : Kind → Text
  | .function => Text.of "function"
  | .macroCall => Text.of "macro"
  | .specialForm => Text.of "special"
  | .variableUse => Text.of "variable"
  | .symbol => Text.of "symbol"

/-- Why there is no rule. -/
inductive Error where
  | unknown (name : Text)
  /-- The kind looks at tokens and has no rule for forms. -/
  | noRule (kind : Kind)
  deriving DecidableEq

def Error.message : Error → Text
  | .unknown name => Text.quote name ++ Text.of " is not a valid SearchKind"
  | .noRule kind => kind.name ++ Text.of " search does not use a classifier"

/-- The kind of a name. -/
def ofName (name : Text) : Except Error Kind :=
  match all.find? fun kind => kind.name = name with
  | some kind => .ok kind
  | none => .error (.unknown name)

/-- The rule of a kind. Special forms are called like macros. -/
def rule : Kind → Except Error Rule
  | .function => .ok isFunctionReference
  | .macroCall => .ok isCall
  | .specialForm => .ok isCall
  | .variableUse => .ok isVariableReference
  | .symbol => .error (.noRule .symbol)

end Kind

end LispXref
