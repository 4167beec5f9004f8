import JapaneseProse.Engine.Export
import JapaneseProse.Engine.Session

/-!
# Engines as objects

An engine has its settings and its tables as objects, and the tables have their replacement
table as an object.  Whoever has the same object sees its changes.  An engine that is built
never takes over what it is given: settings and tables are copied, replacement table
included.  When a toggle of a settings object is switched, the tables that listen to it are
brought in step.

Lists of entries are never changed, only exchanged, so they are kept as values.
-/

namespace JapaneseProse

/-- The place of an object among those of its kind. -/
abbrev Place := Nat

/-- The objects of one kind, each at its place.  The next object that is added gets the place
`next`, and the places from there on are free. -/
structure Heap (α : Type) where
  next : Place
  get : Place → α

namespace Heap

variable {α : Type}

/-- One more object. -/
def add (h : Heap α) (a : α) : Heap α where
  next := h.next + 1
  get p := if p = h.next then a else h.get p

/-- The object at a place changed. -/
def set (h : Heap α) (p : Place) (a : α) : Heap α where
  next := h.next
  get q := if q = p then a else h.get q

variable (h : Heap α) (a : α) {p q : Place}

@[simp]
theorem next_add :
  (h.add a).next = h.next + 1
  := rfl

@[simp]
theorem next_set :
  (h.set p a).next = h.next
  := rfl

@[simp]
theorem get_add_next :
  (h.add a).get h.next = a
  := if_pos rfl

theorem get_add_of_lt (hp : p < h.next) :
  (h.add a).get p = h.get p
  := if_neg (Nat.ne_of_lt hp)

@[simp]
theorem get_set_same :
  (h.set p a).get p = a
  := if_pos rfl

theorem get_set_of_ne (hne : q ≠ p) :
  (h.set p a).get q = h.get q
  := if_neg hne

end Heap

/-- Settings, and the tables that are brought in step when a toggle is switched. -/
structure SettingsObject where
  settings : Settings
  told : List Place

/-- Tables whose replacement table is an object of its own. -/
structure TablesObject where
  replaceMap : Place
  entries : Table → List Text
  newline : Text

/-- An engine with the places of its settings and of its tables. -/
structure EngineObject where
  settings : Place
  tables : Place
  numerals : Numeral.Config

/-- All objects that there are. -/
structure Store where
  settings : Heap SettingsObject
  tables : Heap TablesObject
  replaceMaps : Heap ReplaceMap
  engines : Heap EngineObject

/-- What may be given for the settings of a new engine. -/
inductive SettingsSource where
  | object (place : Place)
  | named (l : List (String × Bool))

/-- What may be given by name for one of the tables: a value, or a replacement table that is
an object. -/
inductive TableSource where
  | value (v : TableValue)
  | replaceMap (place : Place)

/-- What may be given for the tables of a new engine. -/
inductive TablesSource where
  | object (place : Place)
  | named (l : List (String × TableSource))

namespace Store

/-- The store without objects. -/
def empty : Store where
  settings := ⟨0, fun _ => ⟨.allOn, []⟩⟩
  tables := ⟨0, fun _ => ⟨0, Table.standard, ['\n']⟩⟩
  replaceMaps := ⟨0, fun _ => .empty⟩
  engines := ⟨0, fun _ => ⟨0, 0, { }⟩⟩

/-! ### What objects stand for -/

/-- The tables at a place, with the entries that their replacement table has now. -/
def tablesAt (s : Store) (p : Place) : Tables where
  replaceMap := s.replaceMaps.get (s.tables.get p).replaceMap
  entries := (s.tables.get p).entries
  newline := (s.tables.get p).newline

/-- The settings object of an engine. -/
def settingsOf (s : Store) (i : Place) : SettingsObject := s.settings.get (s.engines.get i).settings

/-- The place of the replacement table of an engine. -/
def mapPlace (s : Store) (i : Place) : Place :=
  (s.tables.get (s.engines.get i).tables).replaceMap

/-- The engine at a place, with what its settings and tables are now. -/
def engine (s : Store) (i : Place) : Engine where
  settings := (s.settingsOf i).settings
  tables := s.tablesAt (s.engines.get i).tables
  numerals := (s.engines.get i).numerals
  listeners := (s.settingsOf i).told.map fun _ => .keeper

/-- The value of what is given for one of the tables. -/
def valueOf (s : Store) : TableSource → TableValue
  | .value v => v
  | .replaceMap p => .pairs (s.replaceMaps.get p).entries

/-! ### Toggles -/

/-- The replacement table of the tables at a place brought in step with a toggle. -/
def sync (s : Store) (t : Toggle) (value : Bool) (p : Place) : Store :=
  let m := (s.tables.get p).replaceMap
  { s with replaceMaps := s.replaceMaps.set m ((s.replaceMaps.get m).sync t value) }

/-- A toggle switched in the settings at a place, and the listeners told, one after another. -/
def switch (s : Store) (p : Place) (t : Toggle) (value : Bool) : Store :=
  let o := s.settings.get p
  let switched := { o with settings := o.settings.switch t value }
  o.told.foldl (fun s q => s.sync t value q) { s with settings := s.settings.set p switched }

/-- A toggle of an engine switched by name. -/
def setOption (s : Store) (i : Place) (name : String) (value : Bool) :
    Except Engine.Fault Store :=
  match Toggle.ofName? name with
  | some t => .ok (s.switch (s.engines.get i).settings t value)
  | none => .error (.unknownOption name)

/-- An engine asked to switch a toggle.  The value may be of any kind. -/
structure Call where
  engine : Place
  name : String
  value : Json.Value

/-- The call as it reaches the engine. -/
def Call.own (call : Call) : Engine.Call := .setOption call.name call.value

/-- The store after a call, which changes nothing if it fails. -/
def perform (s : Store) (call : Call) : Store :=
  match s.setOption call.engine call.name call.value.isTruthy with
  | .ok s' => s'
  | .error _ => s

/-- The store after calls, one after another. -/
def after (s : Store) (calls : List Call) : Store := calls.foldl perform s

/-! ### New engines -/

/-- The settings that are given, on top of the default ones. -/
def mergeSettings (s : Store) : SettingsSource → Except Engine.Fault Settings
  | .object p => .ok (s.settings.get p).settings
  | .named l => Settings.allOn.overrideAll l

/-- The tables that are given, on top of the default ones. -/
def mergeTables (s : Store) : TablesSource → Except Engine.Fault Tables
  | .object p => .ok (s.tablesAt p)
  | .named l => Tables.standard.overrideAll (l.map fun o => (o.1, s.valueOf o.2))

/-- New tables, with a replacement table of their own. -/
def addTables (s : Store) (tables : Tables) : Store :=
  { s with
    tables := s.tables.add ⟨s.replaceMaps.next, tables.entries, tables.newline⟩
    replaceMaps := s.replaceMaps.add tables.replaceMap }

/-- A new engine with new settings and tables.  The replacement table is brought in step with
the toggles, and then the tables are told of changes of the settings. -/
def addEngine (s : Store) (settings : Settings) (tables : Tables) (numerals : Numeral.Config) :
    Store :=
  let synced := ((s.addTables tables).sync .halfWidthExclamation (settings .halfWidthExclamation)
    s.tables.next).sync .arabicNumerals (settings .arabicNumerals) s.tables.next
  { synced with
    settings := s.settings.add ⟨settings, [s.tables.next]⟩
    engines := s.engines.add ⟨s.settings.next, s.tables.next, numerals⟩ }

/-- A new engine of what is given. -/
def build (s : Store) (settings : SettingsSource) (tables : TablesSource)
    (numerals : Numeral.Config) : Except Engine.Fault Store := do
  let settings ← s.mergeSettings settings
  let tables ← s.mergeTables tables
  return s.addEngine settings tables numerals

/-! ### Engines handed over -/

/-- How the settings or the tables of an engine are handed over: as the object, by name, or as
a part of a profile. -/
inductive Form where
  | object
  | named
  | profile
deriving DecidableEq, Repr

/-- The profile of what an engine goes by. -/
def profile (s : Store) (i : Place) : Profile :=
  .ofMembers (Profile.membersOf (s.engine i).settings (s.engine i).tables)

/-- The settings of an engine handed over. -/
def handSettings (s : Store) (i : Place) : Form → SettingsSource
  | .object => .object (s.engines.get i).settings
  | .named => .named (s.engine i).settings.named
  | .profile => .named (s.profile i).options

/-- What is handed over for one of the tables: the replacement table as the object at a place,
and all else as its value. -/
def handTable (p : Place) : TableValue → TableSource
  | .pairs _ => .replaceMap p
  | v => .value v

/-- The tables of an engine handed over.  By name, the replacement table is a copy. -/
def handTables (s : Store) (i : Place) : Form → Store × TablesSource
  | .object => (s, .object (s.engines.get i).tables)
  | .named =>
      ({ s with replaceMaps := s.replaceMaps.add (s.engine i).tables.replaceMap },
        .named ((s.engine i).tables.named.map fun o => (o.1, handTable s.replaceMaps.next o.2)))
  | .profile => (s, .named ((s.profile i).tableValues.map fun o => (o.1, .value o.2)))

/-- A new engine of the settings and tables of another. -/
def rebuild (s : Store) (i : Place) (settingsForm tablesForm : Form) (numerals : Numeral.Config) :
    Except Engine.Fault Store :=
  let (s', tables) := s.handTables i tablesForm
  s'.build (s.handSettings i settingsForm) tables numerals

end Store

end JapaneseProse
