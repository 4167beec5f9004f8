import JapaneseProse.Text.Basic

/-!
# Lines of a text

A line ends at a carriage return with a line feed, at a carriage return alone or at a
line feed alone.  A line end at the very end of a text closes the last line; it does
not open an empty one.
-/

namespace JapaneseProse

/-- The stretches between line ends, the one after the last line end included. -/
def splitAtLineEnds : Text → List Text
  | [] => [[]]
  | '\r' :: '\n' :: s => [] :: splitAtLineEnds s
  | c :: s =>
      if c = '\r' ∨ c = '\n' then [] :: splitAtLineEnds s
      else
        match splitAtLineEnds s with
        | [] => [[c]]
        | line :: lines => (c :: line) :: lines

/-- The lines of a text. -/
def splitLines (text : Text) : List Text :=
  let lines := splitAtLineEnds text
  if 1 < lines.length ∧ lines.getLast? = some [] then lines.dropLast else lines

/-! ### Lines of a message -/

/-- Characters that end a line of a message, besides carriage return and line feed: the
vertical tab, the form feed, three separators, the next-line control and the line and
paragraph separators of Unicode. -/
def lineBreaks : List Char :=
  ['\x0b', '\x0c', '\x1c', '\x1d', '\x1e', '\u0085', '\u2028', '\u2029']

/-- A message with every line end and line break written as a line feed. -/
def withLineFeeds : Text → Text
  | [] => []
  | '\r' :: '\n' :: s => '\n' :: withLineFeeds s
  | c :: s => (if c = '\r' ∨ c ∈ lineBreaks then '\n' else c) :: withLineFeeds s

/-- The lines of a message; every line break ends one. -/
def displayedLines (message : Text) : List Text := splitLines (withLineFeeds message)

end JapaneseProse
