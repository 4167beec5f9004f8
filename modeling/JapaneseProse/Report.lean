import JapaneseProse.Engine.Basic
import JapaneseProse.Json.Writer
import JapaneseProse.Text.Quoted

/-!
# Reports

Findings, settings and tables as JSON values, and findings as lines of text.
-/

namespace JapaneseProse

open Json (Value)

/-- An object of members in order. -/
def Json.objectOf (members : List (String × Value)) : Value :=
  .object (members.map fun m => (m.1.toList, m.2))

/-- The text of a string as a JSON value. -/
def Json.stringOf (s : String) : Value := .string s.toList

/-- A natural number as a JSON value. -/
def Json.natOf (n : Nat) : Value := .number (.integer n)

/-- A finding as a JSON object. -/
def Finding.toJson (f : Finding) : Value :=
  Json.objectOf [
    ("line", Json.natOf f.line),
    ("column_begin", Json.natOf f.columnBegin),
    ("column_end", Json.natOf f.columnEnd),
    ("detected", .string f.detected),
    ("kind", Json.stringOf f.kind.name)]

/-- Findings as a JSON array. -/
def Finding.listToJson (l : List Finding) : Value := .array (l.map toJson)

/-- A finding as a line of text about the text at `path`. -/
def Finding.toLine (path : String) (f : Finding) : Text :=
  let place := s!"{path}:{toString f.line}:{toString f.columnBegin}-{toString f.columnEnd}"
  (place ++ ": " ++ f.kind.name ++ " ").toList ++ Quoted.encode f.detected ++ ['\n']

/-- Settings as a JSON object. -/
def Settings.toJson (s : Settings) : Value :=
  Json.objectOf (Toggle.all.map fun t => (t.name, .bool (s t)))

/-- Texts as a JSON array. -/
def textsToJson (l : List Text) : Value := .array (l.map .string)

/-- A replacement table as a JSON object. -/
def ReplaceMap.toJson (m : ReplaceMap) : Value := .object (m.entries.map fun e => (e.1, .string e.2))

/-- Tables as a JSON object. -/
def Tables.toJson (tables : Tables) : Value :=
  Json.objectOf (
    ("replace_map", tables.replaceMap.toJson) ::
    Table.all.map (fun t => (t.name, textsToJson (tables.entries t))) ++
    [("newline", .string tables.newline)])

/-- A name as a JSON value, null for what is no text. -/
def Numeral.Name.toJson (n : Numeral.Name) : Value := (n.text?.map Json.stringOf).getD .null

/-- A numeral configuration as a JSON object. -/
def Numeral.Config.toJson (c : Numeral.Config) : Value :=
  Json.objectOf [("mode", c.mode.toJson), ("char_mode", c.glyphs.toJson)]

end JapaneseProse
