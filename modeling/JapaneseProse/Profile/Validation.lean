import JapaneseProse.Json.Value
import JapaneseProse.Profile.Basic
import JapaneseProse.Profile.Violation

/-!
# Validation of profiles

Whoever hands over a profile as a JSON object has it validated first.  The validation takes single
values for what is declared of members (a truth value, a text, a list of texts, a replacement table
or one of several names), and an object as a whole for a profile, or it says what is wrong.  Nothing
more is fixed here: a validation may take a word or a number for a truth value, and it may tell of
violations in its own way.
-/

namespace JapaneseProse.Profile

open Json (Value Members)

/-- The names of the members that a part can have. -/
def Part.memberNames : Part → List String
  | options => Toggle.all.map Toggle.name
  | tables => "replace_map" :: "newline" :: Table.all.map Table.name
  | numerals => ["mode", "char_mode"]

/-- What JSON values are taken for, if they are taken. -/
structure Validation where
  truth? : Value → Option Bool
  text? : Value → Option Text
  entries? : Value → Option (List Text)
  replaceMap? : Value → Option ReplaceMap
  mode? : Value → Option Numeral.Mode
  glyphs? : Value → Option Numeral.Glyphs
  /-- The profile of the members of an object, or what is wrong with them. -/
  validate : Members → Except (Violation × List Violation) Profile

end JapaneseProse.Profile
