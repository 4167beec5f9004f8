import JapaneseProse.Finding
import JapaneseProse.Text.Edit

/-!
# Doubled marks

Dashes and leaders are written in pairs.  A mark that stands alone, with no mark of
its table beside it, is doubled.
-/

namespace JapaneseProse.Doubling

/-- The marks that stand alone. -/
def isolated (marks : List Text) (line : Text) : List Match :=
  let k := CharClass.ofEntries marks
  (Pattern.run k).matchesWithout (Pattern.longRun k) line

/-- The line with every mark that stands alone written twice. -/
def fix (marks : List Text) (line : Text) : Text :=
  Edit.applyAll ((isolated marks line).map fun m => ⟨m.offset, 0, m.text⟩) line

/-- The marks that stand alone, as findings. -/
def lint (marks : List Text) (number : Nat) (line : Text) : List Finding :=
  (isolated marks line).map fun m => ⟨number, m.offset, m.offset + 1, m.text, .isolatedMark⟩

end JapaneseProse.Doubling
