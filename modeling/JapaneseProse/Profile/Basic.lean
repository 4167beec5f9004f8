import JapaneseProse.Engine.Basic

/-!
# Profiles

A profile is what a user says about the engine: toggles, tables and the way numbers are
written.  What it leaves open keeps the default.
-/

namespace JapaneseProse

/-- What is said about toggles, tables and numerals; `none` keeps the default. -/
structure Profile where
  toggles : Toggle → Option Bool
  replaceMap : Option ReplaceMap
  entries : Table → Option (List Text)
  newline : Option Text
  mode : Numeral.Mode
  glyphs : Numeral.Glyphs

namespace Profile

/-- The profile that leaves everything open. -/
def empty : Profile := ⟨fun _ => none, none, fun _ => none, none, .simple, .modern⟩

/-- The toggles that are given, by name. -/
def options (p : Profile) : List (String × Bool) :=
  Toggle.all.filterMap fun t => (p.toggles t).map fun value => (t.name, value)

/-- The tables that are given, by name. -/
def tableValues (p : Profile) : List (String × TableValue) :=
  (p.replaceMap.map fun m => ("replace_map", TableValue.pairs m.entries)).toList ++
  Table.all.filterMap (fun t => (p.entries t).map fun l => (t.name, TableValue.entries l)) ++
  (p.newline.map fun s => ("newline", TableValue.text s)).toList

/-- The numeral configuration of a profile. -/
def numerals (p : Profile) : Numeral.Config := ⟨p.mode.name, p.glyphs.name⟩

/-- The engine of a profile. -/
def engine? (p : Profile) : Except Engine.Fault Engine :=
  Engine.build p.options p.tableValues p.numerals

/-- The profile with a toggle switched off. -/
def disable (p : Profile) (t : Toggle) : Profile :=
  { p with toggles := fun u => if u = t then some false else p.toggles u }

end Profile

end JapaneseProse
