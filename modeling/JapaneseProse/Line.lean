import JapaneseProse.Numeral.Conversion
import JapaneseProse.Rule.Doubling
import JapaneseProse.Rule.Gap
import JapaneseProse.Rule.LineEnd
import JapaneseProse.Rule.LineHead
import JapaneseProse.Rule.Neighbour
import JapaneseProse.Rule.Repetition
import JapaneseProse.Rule.Replacement
import JapaneseProse.Tables

/-!
# The rules on one line

Converting a line applies the rules that are switched on one after another, each to what
the one before has written.  The order matters: a space after an exclamation mark is put
in only when the punctuation behind the mark is gone.  Linting a line shows the line as
it is to every rule that reports.  Replacements, numerals and spaces at the end of a line
are converted without being reported.
-/

namespace JapaneseProse

/-- A rewriting of lines that is carried out only if asked for. -/
def applyIf (on : Bool) (f : Text → Text) (line : Text) : Text := if on then f line else line

/-- Findings that are reported only if asked for. -/
def reportIf (on : Bool) (findings : List Finding) : List Finding := if on then findings else []

/-- Characters before which no gap is put when a line is converted. -/
def Tables.noGapBefore (tables : Tables) : List Text :=
  tables.entries .rightBrackets ++ tables.entries .spaces

/-- Characters before which a missing gap is not reported; punctuation there is reported
by another rule. -/
def Tables.noGapReportedBefore (tables : Tables) : List Text :=
  tables.entries .rightBrackets ++ tables.entries .spaces ++ tables.entries .punctuation

/-- The line with its numbers written, if asked for. -/
def convertNumerals (on : Bool) (numerals : Numeral.Config) (line : Text) :
    Except Numeral.Fault Text :=
  if on then Numeral.convert numerals line else .ok line

/-- The line rewritten by the rules on marks and spaces that are switched on. -/
def applyRules (settings : Settings) (tables : Tables) (line : Text) : Text :=
  let table := tables.entries
  line
  |> applyIf (settings .lineHeadSpace)
      (LineHead.fix (table .spaces) (table .leftBrackets) [fullWidthSpace])
  |> applyIf (settings .punctuationBeforeBracket)
      (Neighbour.fixBefore (table .rightBrackets) (table .punctuation))
  |> applyIf (settings .doubleDash) (Doubling.fix (table .dashes))
  |> applyIf (settings .doubleLeaders) (Doubling.fix (table .leaders))
  |> applyIf (settings .repeatedPunctuation) (Repetition.fix (table .punctuation) true)
  |> applyIf (settings .punctuationAfterExclamation)
      (Neighbour.fixAfter (table .exclamations) (table .punctuation))
  |> applyIf (settings .spaceAfterExclamation)
      (Gap.fix (table .exclamations) [fullWidthSpace] tables.noGapBefore true)
  |> applyIf (settings .repeatedCharacters) (Repetition.fix (table .noRepeat) false)
  |> applyIf (settings .trailingSpaces) (LineEnd.fix (table .spaces))

/-- The line rewritten by all rules that are switched on. -/
def convertLine (settings : Settings) (tables : Tables) (numerals : Numeral.Config)
    (line : Text) : Except Numeral.Fault Text := do
  let replaced := Replacement.fix tables.replaceMap line
  let written ← convertNumerals (settings .arabicNumerals) numerals replaced
  return applyRules settings tables written

/-- What the rules that are switched on report of a line. -/
def lintLine (settings : Settings) (tables : Tables) (number : Nat) (line : Text) :
    List Finding :=
  let table := tables.entries
  reportIf (settings .lineHeadSpace)
      (LineHead.lint (table .spaces) (table .leftBrackets) number line) ++
  reportIf (settings .punctuationBeforeBracket)
      (Neighbour.lintBefore (table .rightBrackets) (table .punctuation) number line) ++
  reportIf (settings .doubleDash) (Doubling.lint (table .dashes) number line) ++
  reportIf (settings .doubleLeaders) (Doubling.lint (table .leaders) number line) ++
  reportIf (settings .repeatedPunctuation)
      (Repetition.lint (table .punctuation) true number line) ++
  reportIf (settings .punctuationAfterExclamation)
      (Neighbour.lintAfter (table .exclamations) (table .punctuation) number line) ++
  reportIf (settings .spaceAfterExclamation)
      (Gap.lint (table .exclamations) tables.noGapReportedBefore true number line) ++
  reportIf (settings .repeatedCharacters)
      (Repetition.lint (table .noRepeat) false number line)

end JapaneseProse
