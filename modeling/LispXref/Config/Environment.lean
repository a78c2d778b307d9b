-- Environment variables, and the loaders of files that set them.
import LispXref.Text.Basic

namespace LispXref.Config

/-- The variables that are set, each with its value. -/
structure Environment where
  bindings : List (Text × Text)

namespace Environment

def empty : Environment := ⟨[]⟩

/-- The value of a variable, if it is set. -/
def get? (env : Environment) (name : Text) : Option Text := env.bindings.lookup name

/-- Unsets a variable. -/
def erase (env : Environment) (name : Text) : Environment :=
  ⟨env.bindings.filter fun v => v.1 ≠ name⟩

/-- Sets a variable. -/
def insert (env : Environment) (name value : Text) : Environment :=
  ⟨(name, value) :: (env.erase name).bindings⟩

/-- Sets a variable unless it is set already. -/
def insertNew (env : Environment) (name value : Text) : Environment :=
  if (env.get? name).isSome then env else env.insert name value

end Environment

/-- What loads files that set variables. It is a parameter: how a file is written, and which
variables it sets, is left to the loader. -/
class Loader where
  /-- The value that a file gives a variable, if it does. It can depend on the environment, as
  values may name other variables. -/
  given? : Environment → Text → Text → Option Text
  /-- The environment after a file was loaded. -/
  load : Environment → Text → Environment

/-- Loading a file sets exactly the variables of the file that are not set. -/
def Loader.SetsMissing (loader : Loader) : Prop :=
  ∀ env file name,
    (loader.load env file).get? name = (env.get? name).or (loader.given? env file name)

end LispXref.Config
