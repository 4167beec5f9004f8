import JapaneseProse.Text.Basic

/-!
# Edits of a line

An edit replaces a stretch of a line.  The positions of a list of edits all refer to
the line as it was at first, while the edits are made one after another; so each is
moved by what the earlier ones have added and taken away.
-/

namespace JapaneseProse

/-- The `removed` characters from `start` on give way to `inserted`. -/
structure Edit where
  start : Nat
  removed : Nat
  inserted : Text
deriving DecidableEq, Repr

namespace Edit

/-- One stretch of a line replaced, its start moved by what was added and taken away
before it. -/
def splice (e : Edit) (grown shrunk : Nat) (line : Text) : Text :=
  let i := e.start + grown - shrunk
  line.take i ++ e.inserted ++ line.drop (i + e.removed)

/-- Edits made one after another in a line that has already grown and shrunk. -/
def applyShifted (grown shrunk : Nat) : List Edit → Text → Text
  | [], line => line
  | e :: es, line =>
      applyShifted (grown + e.inserted.length) (shrunk + e.removed) es (e.splice grown shrunk line)

/-- Edits made one after another; their positions refer to the line as given. -/
def applyAll (es : List Edit) (line : Text) : Text := applyShifted 0 0 es line

end Edit

end JapaneseProse
