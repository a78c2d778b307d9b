-- Lisp forms as the reader builds them. Comments and layout are gone, but a
-- dotted list, the kinds of vector and the interning of symbols are kept.
-- Reader shorthand such as 'x is not kept: it reads as the list (quote x).
import LispXref.Binary64
import LispXref.Text.Basic

namespace LispXref

/-! ## Symbols -/

/-- A symbol. Interned symbols are the same when their names are; an uninterned
one, written `#:name`, is never the same as an interned one. -/
structure Symbol where
  name : Text
  interned : Bool
  deriving DecidableEq

namespace Symbol

/-- The interned symbol of a name. -/
def intern (name : Text) : Symbol := ⟨name, true⟩

/-- The interned symbol of a name given as a string. -/
def named (name : String) : Symbol := intern (Text.of name)

/-- The symbol as written, apart from escapes. -/
def toText (s : Symbol) : Text := if s.interned then s.name else Text.of "#:" ++ s.name

end Symbol

/-! ## Forms -/

/-- The compounds that hold their items without an operator. -/
inductive VectorKind where
  /-- Written `[…]`. -/
  | plain
  /-- Written `#s(…)`. -/
  | record
  /-- Written `#[…]`. -/
  | bytecode
  deriving DecidableEq

/-- A Lisp form. -/
inductive Form where
  | symbol (s : Symbol)
  | string (value : Text)
  /-- A character literal; the code carries the modifier bits of keys. -/
  | char (code : Int)
  | int (value : Int)
  | float (value : Binary64)
  /-- Written `#&N"…"`; an atom. -/
  | boolVector (length : Nat) (data : Text)
  /-- A list that ends in nil. -/
  | list (items : List Form)
  /-- A list with a form after a dot. -/
  | dotted (items : List Form) (tail : Form)
  | vector (kind : VectorKind) (items : List Form)

instance : Inhabited Form := ⟨.list []⟩

namespace Form

/-- Lists, dotted lists and vectors of any kind. -/
def isCompound : Form → Bool
  | .list _ | .dotted _ _ | .vector _ _ => true
  | _ => false

/-- Lists that end in nil. -/
def isProperList : Form → Bool
  | .list _ => true
  | _ => false

/-- Whether the form is the given symbol. -/
def isSymbol (target : Symbol) : Form → Bool
  | .symbol s => s = target
  | _ => false

/-- The items of a list or dotted list. -/
def listItems : Form → List Form
  | .list items | .dotted items _ => items
  | _ => []

/-- The symbol at the head of a list or dotted list. -/
def operator? (f : Form) : Option Symbol :=
  match f.listItems with
  | .symbol s :: _ => some s
  | _ => none

/-- The forms that a search descends into: the items of proper lists and of
vectors. A dotted list is not descended into. -/
def children : Form → List Form
  | .list items | .vector _ items => items
  | _ => []

end Form

/-! ## Equality -/

mutual

/-- Whether two forms are equal. -/
def Form.same : Form → Form → Bool
  | .symbol a, .symbol b => a = b
  | .string a, .string b => a = b
  | .char a, .char b => a = b
  | .int a, .int b => a = b
  | .float a, .float b => a = b
  | .boolVector m a, .boolVector n b => m = n && a = b
  | .list fs, .list gs => sameItems fs gs
  | .dotted fs f, .dotted gs g => sameItems fs gs && f.same g
  | .vector k fs, .vector l gs => k = l && sameItems fs gs
  | _, _ => false

/-- Whether two rows of forms are equal. -/
def Form.sameItems : List Form → List Form → Bool
  | [], [] => true
  | f :: fs, g :: gs => f.same g && sameItems fs gs
  | _, _ => false

end

mutual

theorem Form.same_iff (f g : Form) : f.same g = true ↔ f = g := by
  cases f with
  | list fs => cases g <;> simp [same, sameItems_iff fs]
  | dotted fs f => cases g <;> simp [same, sameItems_iff fs, same_iff f]
  | vector k fs => cases g <;> simp [same, sameItems_iff fs]
  | _ => cases g <;> simp [same]

theorem Form.sameItems_iff (fs gs : List Form) : sameItems fs gs = true ↔ fs = gs := by
  cases fs with
  | nil => cases gs <;> simp [sameItems]
  | cons f fs => cases gs <;> simp [sameItems, same_iff f, sameItems_iff fs]

end

instance : DecidableEq Form := fun f g => decidable_of_iff (f.same g = true) (Form.same_iff f g)

/-! ## Shorthand -/

/-- The five marks that stand for a list of two items, the first being the
mark's symbol. -/
inductive Shorthand where
  | quote
  | function
  | backquote
  | comma
  | commaAt
  deriving DecidableEq

namespace Shorthand

/-- All marks, the longer ones first, so that the first that fits is meant. -/
def all : List Shorthand := [.function, .commaAt, .quote, .backquote, .comma]

/-- How the mark is written. -/
def mark : Shorthand → Text
  | .quote => ['\x27']
  | .function => ['#', '\x27']
  | .backquote => ['\x60']
  | .comma => [',']
  | .commaAt => [',', '@']

/-- The symbol that the mark stands for. -/
def head : Shorthand → Symbol
  | .quote => .named "quote"
  | .function => .named "function"
  | .backquote => .named "\x60"
  | .comma => .named ","
  | .commaAt => .named ",@"

/-- The list that the mark and a form after it stand for. -/
def apply (s : Shorthand) (f : Form) : Form := .list [.symbol s.head, f]

/-- The mark that stands for a symbol. -/
def ofHead? (s : Symbol) : Option Shorthand := all.find? fun m => m.head = s

/-- The mark that stands for the head of a list of two items. -/
def ofItems? : List Form → Option Shorthand
  | [.symbol head, _] => ofHead? head
  | _ => none

end Shorthand

/-- The form `(quote f)`. -/
def Form.quoted (f : Form) : Form := Shorthand.quote.apply f

/-- Whether the form is the quoted symbol. -/
def Form.isQuoted (target : Symbol) : Form → Bool
  | .list [.symbol q, .symbol s] => q = Shorthand.quote.head && s = target
  | _ => false

end LispXref
