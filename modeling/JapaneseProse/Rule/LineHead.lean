import JapaneseProse.Finding

/-!
# The head of a line

A paragraph line begins with a space, and a line of speech with an opening bracket.
Any other line that is not empty lacks its indent.
-/

namespace JapaneseProse.LineHead

/-- Whether a line begins with a character that is neither a space nor an opening
bracket. -/
def lacksIndent (spaces leftBrackets : List Text) : Text → Bool
  | [] => false
  | c :: _ => (CharClass.outside (spaces ++ leftBrackets)).contains c

/-- The line with `indent` in front of it, if it lacks one. -/
def fix (spaces leftBrackets : List Text) (indent line : Text) : Text :=
  if lacksIndent spaces leftBrackets line then indent ++ line else line

/-- The first character of a line that lacks its indent. -/
def lint (spaces leftBrackets : List Text) (number : Nat) (line : Text) : List Finding :=
  if lacksIndent spaces leftBrackets line then [⟨number, 0, 1, line.take 1, .missingIndent⟩]
  else []

end JapaneseProse.LineHead
