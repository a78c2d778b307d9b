-- What a run is asked for. How a command line comes to a request is left to whatever reads
-- command lines.
import LispXref.Kind

namespace LispXref.Command

/-- How the kind of reference is chosen. -/
inductive KindChoice where
  /-- By the command. -/
  | fixed (kind : Kind)
  /-- By an option, which may name no kind. -/
  | named (name : Text)
  /-- By a reply of the user, whom the run asks. -/
  | asked
  deriving DecidableEq

/-- What to search for and how to show it. -/
structure SearchRequest where
  choice : KindChoice
  symbol : Text
  paths : List Text
  pathStart : Option Text
  skipMalformed : Bool
  context : Nat
  deriving DecidableEq

/-- What a run is asked for. -/
inductive Request where
  | version
  | help
  | search (request : SearchRequest)
  deriving DecidableEq

end LispXref.Command
