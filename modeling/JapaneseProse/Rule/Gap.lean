import JapaneseProse.Finding
import JapaneseProse.Text.Edit

/-!
# A gap after marks

A run of marks is set off from what follows by a gap.  The whole run counts: the gap
is never put inside it.  No gap is wanted before an excluded character, nor, if asked
for, at the end of the line.
-/

namespace JapaneseProse.Gap

/-- A run of marks that ends before no excluded character, together with the character
after it if a run at the end of the line does not count. -/
def pattern (marks excluded : List Text) (exceptAtEnd : Bool) : Pattern :=
  let guarded := Pattern.followedBy (.run (.ofEntries marks))
    (.notBefore (.ofEntries (marks ++ excluded)))
  if exceptAtEnd then .followedBy guarded (.single .withinLine) else guarded

/-- The runs that lack a gap behind them. -/
def missing (marks excluded : List Text) (exceptAtEnd : Bool) (line : Text) : List Match :=
  (pattern marks excluded exceptAtEnd).matchesIn line

/-- The line with `gap` put behind every run that lacks one. -/
def fix (marks : List Text) (gap : Text) (excluded : List Text) (exceptAtEnd : Bool)
    (line : Text) : Text :=
  let tail := if exceptAtEnd then 1 else 0
  Edit.applyAll
    ((missing marks excluded exceptAtEnd line).map fun m =>
      ⟨m.offset + m.text.length - tail, 0, gap⟩) line

/-- The runs that lack a gap behind them, as findings. -/
def lint (marks excluded : List Text) (exceptAtEnd : Bool) (number : Nat) (line : Text) :
    List Finding :=
  (missing marks excluded exceptAtEnd line).map (Finding.ofMatch number .missingGap)

end JapaneseProse.Gap
