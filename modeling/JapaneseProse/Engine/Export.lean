import JapaneseProse.Engine.Overrides
import JapaneseProse.Profile.Reader
import JapaneseProse.Report

/-!
# Settings and tables handed out

What an engine goes by can be handed out as settings and tables by name, all of them and in
the order in which they are listed, and as the members of a profile.
-/

namespace JapaneseProse

/-- All toggles by name, each with whether it is on. -/
def Settings.named (settings : Settings) : List (String × Bool) :=
  Toggle.all.map fun t => (t.name, settings t)

/-- All tables by name, each with its value. -/
def Tables.named (tables : Tables) : List (String × TableValue) :=
  ("replace_map", TableValue.pairs tables.replaceMap.entries) ::
    Table.all.map (fun t => (t.name, TableValue.entries (tables.entries t))) ++
  [("newline", TableValue.text tables.newline)]

/-- The members of a profile that says all about settings and tables. -/
def Profile.membersOf (settings : Settings) (tables : Tables) : Json.Members :=
  [(Part.options.name.toList, settings.toJson), (Part.tables.name.toList, tables.toJson)]

end JapaneseProse
