import JapaneseProse.Finding
import JapaneseProse.Text.Edit

/-!
# Repeated marks

Marks of a table that follow one another are reduced to the first of them.  Strictly,
any mixture of marks counts as a repetition; otherwise only copies of one mark do.
-/

namespace JapaneseProse.Repetition

/-- The repetitions in a line. -/
def repeated (marks : List Text) (strict : Bool) (line : Text) : List Match :=
  let k := CharClass.ofEntries marks
  (if strict then Pattern.longRun k else Pattern.copies k).matchesIn line

/-- The line with every repetition reduced to its first mark. -/
def fix (marks : List Text) (strict : Bool) (line : Text) : Text :=
  Edit.applyAll
    ((repeated marks strict line).map fun m => ⟨m.offset, m.text.length, m.text.take 1⟩) line

/-- The repetitions, as findings. -/
def lint (marks : List Text) (strict : Bool) (number : Nat) (line : Text) : List Finding :=
  (repeated marks strict line).map (Finding.ofMatch number .repetition)

end JapaneseProse.Repetition
