import JapaneseProse.Text.Basic

/-!
# Violations of the form of a profile

What a JSON value can get wrong when it is read as a profile, and where.
-/

namespace JapaneseProse.Profile

/-- The three parts of a profile. -/
inductive Part where
  | options
  | tables
  | numerals
deriving DecidableEq, Repr

/-- The name of a part in JSON texts. -/
def Part.name : Part → String
  | options => "options"
  | tables => "chars"
  | numerals => "numerals"

/-- The name of the form that a part has to have. -/
def Part.formName : Part → String
  | options => "JandentOptionsModel"
  | tables => "TargetCharsModel"
  | numerals => "NumeralOptionsModel"

/-- A step on the way to a faulty value. -/
inductive Step where
  | name (s : Text)
  | index (n : Nat)
deriving DecidableEq, Repr

/-- What a value can get wrong. -/
inductive Violation.Kind where
  | notAnObject (part : Option Part)
  | unknownName
  | notABoolean
  | unreadableBoolean
  | notAList
  | notADictionary
  | notAString
  | unknownMode
  | unknownGlyphs
  | missing
deriving DecidableEq, Repr

/-- A fault and the way to the value that has it. -/
structure Violation where
  kind : Violation.Kind
  location : List Step
deriving DecidableEq, Repr

namespace Violation

/-- The name of a kind of violation in reports. -/
def Kind.name : Kind → String
  | notAnObject _ => "model_type"
  | unknownName => "extra_forbidden"
  | notABoolean => "bool_type"
  | unreadableBoolean => "bool_parsing"
  | notAList => "list_type"
  | notADictionary => "dict_type"
  | notAString => "string_type"
  | unknownMode => "enum"
  | unknownGlyphs => "enum"
  | missing => "missing"

/-- What is said about a violation. -/
def Kind.message : Kind → String
  | notAnObject (some part) =>
      "Input should be a valid dictionary or instance of " ++ part.formName
  | notAnObject none => "Input should be a valid dictionary or object to extract fields from"
  | unknownName => "Extra inputs are not permitted"
  | notABoolean => "Input should be a valid boolean"
  | unreadableBoolean => "Input should be a valid boolean, unable to interpret input"
  | notAList => "Input should be a valid list"
  | notADictionary => "Input should be a valid dictionary"
  | notAString => "Input should be a valid string"
  | unknownMode => "Input should be 'simple', 'moderate', 'verbose' or 'dictate'"
  | unknownGlyphs => "Input should be 'modern' or 'retro'"
  | missing => "Field required"

end Violation

end JapaneseProse.Profile
