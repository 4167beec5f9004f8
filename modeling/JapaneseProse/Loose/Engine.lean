import JapaneseProse.Engine.Answer
import JapaneseProse.Loose.Tables

/-!
# Engines with loose tables

An engine with loose tables works like one with tables of texts, as long as the rules
that are on find texts in the tables that they go by.  What comes first on a line is told
first: replacements, then numerals, then the rules, and at last the line end.
-/

namespace JapaneseProse

open Json (Value)

namespace LooseTables

/-- A line converted. -/
def convertLine (settings : Settings) (tables : LooseTables) (numerals : Numeral.Config)
    (line : Text) : Except Engine.Fault Text :=
  if tables.replaceMap.texts?.isNone then .error (.malformedTable "replace_map")
  else do
    let replaced := Replacement.fix tables.toTables.replaceMap line
    let written ←
      (convertNumerals (settings .arabicNumerals) numerals replaced).mapError .numeral
    if tables.fits settings used && tables.fitsAtEnd settings then
      return applyRules settings tables.toTables written
    else .error (.malformedTable "chars")

/-- A line linted. -/
def lintLine (settings : Settings) (tables : LooseTables) (number : Nat) (line : Text) :
    Except Engine.Fault (List Finding) :=
  if tables.fits settings usedByLint then
    .ok (JapaneseProse.lintLine settings tables.toTables number line)
  else .error (.malformedTable "chars")

/-- A line converted and closed by the line end. -/
def convertAndClose (settings : Settings) (tables : LooseTables) (numerals : Numeral.Config)
    (line : Text) : Except Engine.Fault Text := do
  let out ← tables.convertLine settings numerals line
  match tables.newline with
  | .string newline => return out ++ newline
  | _ => .error (.malformedTable "newline")

end LooseTables

instance : Synced LooseTables := ⟨LooseTables.sync⟩

/-- An engine that goes by loose tables. -/
abbrev LooseEngine := EngineWith LooseTables

namespace LooseEngine

/-- The settings of options, which are given one by one or as a whole. -/
def settingsOf (asWhole : Bool) (options : List (String × Value)) :
    Except Engine.Fault Settings :=
  (Settings.allOn.overrideAll (options.map fun o => (o.1, o.2.isTruthy))).mapError fun fault =>
    match fault, asWhole with
    | .unknownOption name, true => .malformedOptions name
    | fault, _ => fault

/-- The engine of options and tables, each given one by one or as a whole.  A whole is put
together before anything is taken from what is given one by one. -/
def build (wholeOptions wholeTables : Bool) (options tables : List (String × Value))
    (numerals : Numeral.Config) : Except Engine.Fault LooseEngine :=
  let settings := settingsOf wholeOptions options
  let tables := LooseTables.standard.giveAll (!wholeTables) tables
  if wholeTables && !wholeOptions then do
    let tables ← tables
    return .make (← settings) tables numerals
  else do
    let settings ← settings
    return .make settings (← tables) numerals

/-- A text converted. -/
def convert (e : LooseEngine) (text : Text) : Except Engine.Fault Text := do
  let lines ← (splitLines text).mapM (e.tables.convertAndClose e.settings e.numerals)
  return lines.flatten

/-- The findings of lines, the first of which has the number `n`. -/
def lintLinesFrom (e : LooseEngine) (n : Nat) : List Text → Except Engine.Fault (List Finding)
  | [] => .ok []
  | line :: lines => do
      let found ← e.tables.lintLine e.settings n line
      let rest ← e.lintLinesFrom (n + 1) lines
      return found ++ rest

/-- The findings of a text. -/
def lint (e : LooseEngine) (text : Text) : Except Engine.Fault (List Finding) :=
  e.lintLinesFrom 1 (splitLines text)

/-- A text converted, and its findings; both see the text as it is. -/
def run (e : LooseEngine) (text : Text) : Except Engine.Fault (Text × List Finding) := do
  let findings ← e.lint text
  let converted ← e.convert text
  return (converted, findings)

end LooseEngine

end JapaneseProse
