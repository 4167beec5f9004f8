import JapaneseProse.ReplaceMap
import JapaneseProse.Text.Pieces

/-!
# Replacement of texts

The entries of a replacement table are applied one after another, so a later entry
also sees what an earlier one has written.  An entry replaces every occurrence of its
key, from left to right and without overlap; an empty key replaces nothing.
-/

namespace JapaneseProse.Replacement

/-- The line with every occurrence of `key` replaced by `value`. -/
def replaceAll (key value line : Text) : Text :=
  joinPieces (pieces (fun c s =>
    if key.isPrefixOf (c :: s) then some (key.length - 1, value) else none) line)

/-- The line with one entry of a table applied. -/
def applyEntry (line : Text) (entry : Text × Text) : Text :=
  if entry.1 = [] then line else replaceAll entry.1 entry.2 line

/-- The line with all entries of a table applied, in order. -/
def fix (map : ReplaceMap) (line : Text) : Text := map.entries.foldl applyEntry line

end JapaneseProse.Replacement
