import JapaneseProse.Loose.Map

/-!
# Loose tables

Loose tables hold whatever they were given.  A value of the wrong form is kept, and it is
a fault only when a rule that goes by it is applied.
-/

namespace JapaneseProse

open Json (Value)

/-- Tables whose content may be of any form. -/
structure LooseTables where
  replaceMap : LooseMap
  entries : Table → Value
  newline : Value

namespace LooseTables

/-- Tables of texts as loose tables. -/
def ofTables (tables : Tables) : LooseTables where
  replaceMap := .ofReplaceMap tables.replaceMap
  entries t := .array ((tables.entries t).map .string)
  newline := .string tables.newline

/-- The tables that are used unless others are given. -/
def standard : LooseTables := ofTables .standard

/-- The tables with one of them changed. -/
def setEntries (tables : LooseTables) (t : Table) (v : Value) : LooseTables :=
  { tables with entries := fun u => if u = t then v else tables.entries u }

/-- The tables with the replacement entries that a toggle stands for, or without them. -/
def sync (tables : LooseTables) (t : Toggle) (on : Bool) : LooseTables :=
  { tables with replaceMap := tables.replaceMap.sync t on }

/-! ### Tables that are given -/

/-- Tables with the value of one given by name.  An override is taken apart into its
items; otherwise the value is kept as it is. -/
def give (isOverride : Bool) (tables : LooseTables) (name : String) (v : Value) :
    Except Engine.Fault LooseTables :=
  if name = "replace_map" then
    (LooseMap.ofValue? v).map fun m => { tables with replaceMap := m }
  else if name = "newline" then .ok { tables with newline := v }
  else
    match Table.ofName? name, isOverride, v.items? with
    | none, true, _ => .error (.unknownTable name)
    | none, false, _ => .error (.malformedTable name)
    | some t, false, _ => .ok (tables.setEntries t v)
    | some t, true, some items => .ok (tables.setEntries t (.array items))
    | some _, true, none => .error (.malformedTable name)

/-- Tables with values given by name, one after another. -/
def giveAll (isOverride : Bool) (tables : LooseTables) (l : List (String × Value)) :
    Except Engine.Fault LooseTables :=
  l.foldlM (fun tables o => tables.give isOverride o.1 o.2) tables

/-- The tables with an entry added to one of them, which has to be a list. -/
def append (tables : LooseTables) (t : Table) (entry : Value) : Except Engine.Fault LooseTables :=
  match tables.entries t with
  | .array items => .ok (tables.setEntries t (.array (items ++ [entry])))
  | _ => .error (.closedTable t.name)

/-! ### Tables as the rules see them -/

/-- The texts that are the items of a value, without those that count as false. -/
def truthyTexts? (v : Value) : Option (List Text) :=
  v.items?.bind fun l => (l.filter Value.isTruthy).mapM Value.text?

/-- The texts of the tables; a table that holds something else is empty. -/
def toTables (tables : LooseTables) : Tables where
  replaceMap := .ofList (tables.replaceMap.texts?.getD [])
  entries t := ((tables.entries t).texts? <|> truthyTexts? (tables.entries t)).getD []
  newline := tables.newline.text?.getD []

/-- The tables that a rule goes by when a line is converted.  Of the spaces at the end of
a line only those count that are not empty. -/
def used : Toggle → List Table
  | .lineHeadSpace => [.spaces, .leftBrackets]
  | .punctuationBeforeBracket => [.rightBrackets, .punctuation]
  | .doubleDash => [.dashes]
  | .doubleLeaders => [.leaders]
  | .repeatedPunctuation => [.punctuation]
  | .punctuationAfterExclamation => [.exclamations, .punctuation]
  | .spaceAfterExclamation => [.exclamations, .rightBrackets, .spaces]
  | .repeatedCharacters => [.noRepeat]
  | .trailingSpaces => []
  | .arabicNumerals => []
  | .halfWidthExclamation => []

/-- The tables that a rule goes by when a line is linted. -/
def usedByLint : Toggle → List Table
  | .spaceAfterExclamation => .punctuation :: used .spaceAfterExclamation
  | t => used t

/-- Whether the tables that the rules that are on go by hold texts. -/
def fits (tables : LooseTables) (settings : Settings) (used : Toggle → List Table) : Bool :=
  Toggle.all.all fun t =>
    !settings t || (used t).all fun u => (tables.entries u).texts?.isSome

/-- Whether the spaces at the end of a line can be told, if they are asked for. -/
def fitsAtEnd (tables : LooseTables) (settings : Settings) : Bool :=
  !settings .trailingSpaces || (truthyTexts? (tables.entries .spaces)).isSome

end LooseTables

end JapaneseProse
