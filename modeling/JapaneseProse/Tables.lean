import JapaneseProse.ReplaceMap
import JapaneseProse.Text.CharClass
import JapaneseProse.Toggle

/-!
# Character tables

The rules are told by tables which characters they are about.  There are eight tables of
entries, besides the replacement table and the line end that is written.  Two toggles
stand for entries of the replacement table: half-width exclamation and question marks
become full-width, and full-width digits become ASCII digits.
-/

namespace JapaneseProse

/-- The tables of entries. -/
inductive Table where
  | noRepeat
  | leftBrackets
  | rightBrackets
  | punctuation
  | exclamations
  | dashes
  | leaders
  | spaces
deriving DecidableEq, Repr

namespace Table

/-- All tables, in the order in which they are listed. -/
def all : List Table :=
  [noRepeat, leftBrackets, rightBrackets, punctuation, exclamations, dashes, leaders, spaces]

/-- The name of a table in settings. -/
def name : Table → String
  | noRepeat => "forbid_consec_chars"
  | leftBrackets => "left_brackets"
  | rightBrackets => "right_brackets"
  | punctuation => "puncs"
  | exclamations => "exclams"
  | dashes => "dashes"
  | leaders => "leaders"
  | spaces => "spaces"

/-- The table of some name. -/
def ofName? (s : String) : Option Table := all.find? fun t => t.name == s

theorem mem_all (t : Table) :
  t ∈ all
  := by
  cases t <;> decide

/-- The entries a table has unless others are given. -/
def standard : Table → List Text
  | noRepeat => [['を'], ['ん'], ['っ'], ['ゃ'], ['ゅ'], ['ょ']]
  | leftBrackets => [['「'], ['『'], ['【'], ['［'], ['《'], ['〈']]
  | rightBrackets => [['」'], ['』'], ['】'], ['］'], ['》'], ['〉']]
  | punctuation => [['、'], ['。']]
  | exclamations => [['！'], ['？']]
  | dashes => [['―']]
  | leaders => [['…'], ['‥']]
  | spaces => [[' '], [fullWidthSpace]]

end Table

/-- The tables the rules go by, and the line end that is written. -/
structure Tables where
  replaceMap : ReplaceMap
  entries : Table → List Text
  newline : Text

namespace Tables

/-- The tables that are used unless others are given. -/
def standard : Tables := ⟨.empty, Table.standard, ['\n']⟩

/-- The characters that occur in the entries of a table. -/
def charClass (tables : Tables) (t : Table) : CharClass := .ofEntries (tables.entries t)

/-- The tables with the entries of one of them changed. -/
def setEntries (tables : Tables) (t : Table) (entries : List Text) : Tables :=
  { tables with entries := fun u => if u = t then entries else tables.entries u }

@[simp]
theorem entries_setEntries_same (tables : Tables) (t : Table) (entries : List Text) :
  (tables.setEntries t entries).entries t = entries
  := by
  simp [setEntries]

theorem entries_setEntries_other (tables : Tables) {t u : Table} (entries : List Text)
    (h : u ≠ t) :
  (tables.setEntries t entries).entries u = tables.entries u
  := by
  simp [setEntries, h]

end Tables

/-! ### Entries that toggles stand for -/

/-- Half-width exclamation and question marks, with their full-width forms. -/
def halfWidthMarks : List (Text × Text) := [(['!'], ['！']), (['?'], ['？'])]

/-- Full-width digits, with the ASCII digits. -/
def fullWidthDigits : List (Text × Text) :=
  [(['０'], ['0']), (['１'], ['1']), (['２'], ['2']), (['３'], ['3']), (['４'], ['4']),
    (['５'], ['5']), (['６'], ['6']), (['７'], ['7']), (['８'], ['8']), (['９'], ['9'])]

/-- The entries of the replacement table that a toggle stands for. -/
def Toggle.impliedEntries : Toggle → List (Text × Text)
  | .halfWidthExclamation => halfWidthMarks
  | .arabicNumerals => fullWidthDigits
  | _ => []

/-- The replacement table with the entries that a toggle stands for, or without them. -/
def ReplaceMap.sync (m : ReplaceMap) (t : Toggle) (on : Bool) : ReplaceMap :=
  if on then m.putAll t.impliedEntries else m.eraseAll (t.impliedEntries.map Prod.fst)

/-- The tables with the replacement entries that a toggle stands for, or without them. -/
def Tables.sync (tables : Tables) (t : Toggle) (on : Bool) : Tables :=
  { tables with replaceMap := tables.replaceMap.sync t on }

end JapaneseProse
