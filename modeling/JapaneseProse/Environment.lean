import JapaneseProse.Text.Integer

/-!
# The environment

Settings that are given by environment variables.  The value of a variable is trimmed,
and a variable that is blank counts as unset.
-/

namespace JapaneseProse

/-- Variables and their values. -/
abbrev Environment := List (String × Text)

namespace Environment

/-- The environment with a variable set. -/
def set (env : Environment) (name : String) (value : Text) : Environment :=
  (name, value) :: env.filter (·.1 ≠ name)

/-- The environment with a variable unset. -/
def unset (env : Environment) (name : String) : Environment := env.filter (·.1 ≠ name)

/-- The trimmed value of a variable; the empty text if it is unset. -/
def trimmed (env : Environment) (name : String) : Text :=
  trim ((env.lookup name).getD [])

/-- The words that switch a setting on, in any case. -/
def truthyWords : List String := ["1", "true", "yes", "y", "on"]

/-- Whether a variable switches a setting on. -/
def isTruthy (env : Environment) (name : String) : Bool :=
  truthyWords.contains (String.ofList ((env.trimmed name).map Char.toLower))

/-- The value of a variable, or a default. -/
def text (env : Environment) (name : String) (default : Text) : Text :=
  match env.trimmed name with
  | [] => default
  | s => s

/-- The number that is the value of a variable, or a default. -/
def integer (env : Environment) (name : String) (default : Int) : Int :=
  (readInteger? (env.trimmed name)).getD default

end Environment

end JapaneseProse
