import JapaneseProse.Text.Basic

/-!
# Blank characters

White space is what Unicode calls so: the spaces and the line ends.  Settings are trimmed
of blank characters, which are white space and the four information separators.
-/

namespace JapaneseProse

/-- The first and last code points of the ranges of white space. -/
def whiteSpaceRanges : List (Nat × Nat) := [
    (0x9, 0xD), (0x20, 0x20), (0x85, 0x85), (0xA0, 0xA0), (0x1680, 0x1680), (0x2000, 0x200A),
    (0x2028, 0x2029), (0x202F, 0x202F), (0x205F, 0x205F), (0x3000, 0x3000)]

/-- Whether a character is white space. -/
def isWhiteSpace (c : Char) : Bool :=
  whiteSpaceRanges.any fun r => r.1 ≤ c.toNat && c.toNat ≤ r.2

/-- Whether a character is an information separator. -/
def isInformationSeparator (c : Char) : Bool := 0x1C ≤ c.toNat && c.toNat ≤ 0x1F

/-- Whether a character is blank. -/
def isBlank (c : Char) : Bool := isWhiteSpace c || isInformationSeparator c

/-- A text without the characters of some kind at its ends. -/
def trimEnds (isTrimmed : Char → Bool) (s : Text) : Text :=
  ((s.dropWhile isTrimmed).reverse.dropWhile isTrimmed).reverse

/-- A text without the blank characters at its ends. -/
def trim (s : Text) : Text := trimEnds isBlank s

end JapaneseProse
