import JapaneseProse.Line
import JapaneseProse.Text.Lines

/-!
# Documents

A document is converted and linted line by line.  Every converted line is closed by the
line end of the tables, the last one too; findings carry the number of their line.
-/

namespace JapaneseProse

/-- The text with every line converted and closed by a line end. -/
def convertText (settings : Settings) (tables : Tables) (numerals : Numeral.Config)
    (text : Text) : Except Numeral.Fault Text := do
  let lines ← (splitLines text).mapM (convertLine settings tables numerals)
  return (lines.map (· ++ tables.newline)).flatten

/-- The findings of lines, the first of which has the number `n`. -/
def lintLinesFrom (settings : Settings) (tables : Tables) (n : Nat) : List Text → List Finding
  | [] => []
  | line :: lines =>
      lintLine settings tables n line ++ lintLinesFrom settings tables (n + 1) lines

/-- The findings of a text, line by line. -/
def lintText (settings : Settings) (tables : Tables) (text : Text) : List Finding :=
  lintLinesFrom settings tables 1 (splitLines text)

end JapaneseProse
