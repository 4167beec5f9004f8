/-!
# Text

A text is the list of its characters.  All positions and lengths in this library
count characters.
-/

namespace JapaneseProse

/-- A text, character by character. -/
abbrev Text := List Char

/-- The full-width space U+3000. -/
def fullWidthSpace : Char := '\u3000'

end JapaneseProse
