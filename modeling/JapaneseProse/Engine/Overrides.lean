import JapaneseProse.Engine.Fault
import JapaneseProse.Tables

/-!
# Overrides of the defaults

Settings and tables start from the defaults and are overridden by name, one after
another.  A table that is given replaces the default one as a whole.
-/

namespace JapaneseProse

/-- What may be given for a table. -/
inductive TableValue where
  | entries (l : List Text)
  | text (s : Text)
  | pairs (l : List (Text × Text))
deriving DecidableEq, Repr

namespace TableValue

/-- The entries a value stands for; a text stands for its characters, and pairs for
their first members. -/
def toEntries : TableValue → List Text
  | entries l => l
  | text s => s.map fun c => [c]
  | pairs l => (ReplaceMap.ofList l).keys

/-- The replacement table a value stands for. -/
def toReplaceMap? : TableValue → Option ReplaceMap
  | pairs l => some (.ofList l)
  | entries [] => some .empty
  | _ => none

/-- The text a value stands for. -/
def toText? : TableValue → Option Text
  | text s => some s
  | _ => none

end TableValue

/-- Settings with a toggle switched by name. -/
def Settings.override (s : Settings) (name : String) (value : Bool) :
    Except Engine.Fault Settings :=
  match Toggle.ofName? name with
  | some t => .ok (s.switch t value)
  | none => .error (.unknownOption name)

/-- Settings with toggles switched by name, one after another. -/
def Settings.overrideAll (s : Settings) (l : List (String × Bool)) :
    Except Engine.Fault Settings :=
  l.foldlM (fun s o => s.override o.1 o.2) s

/-- Tables with the value of a table given, which has to be of the right form. -/
def Tables.override (tables : Tables) (name : String) (value : TableValue) :
    Except Engine.Fault Tables :=
  let malformed := Engine.Fault.malformedTable name
  if name = "replace_map" then
    match value.toReplaceMap? with
    | some m => .ok { tables with replaceMap := m }
    | none => .error malformed
  else if name = "newline" then
    match value.toText? with
    | some s => .ok { tables with newline := s }
    | none => .error malformed
  else
    match Table.ofName? name with
    | none => .error (.unknownTable name)
    | some t => .ok (tables.setEntries t value.toEntries)

/-- Tables with values given by name, one after another. -/
def Tables.overrideAll (tables : Tables) (l : List (String × TableValue)) :
    Except Engine.Fault Tables :=
  l.foldlM (fun tables o => tables.override o.1 o.2) tables

end JapaneseProse
