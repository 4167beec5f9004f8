import JapaneseProse.Engine.Document
import JapaneseProse.Engine.Overrides

/-!
# The engine

An engine holds settings, tables and a numeral configuration, and converts and lints
texts by them.  A toggle that is switched is announced to the listeners, in the order in
which they were added.  The first listener is the engine's own: it keeps the replacement
table in step with the toggles.  All this is the same for any kind of tables that can be
kept in step.
-/

namespace JapaneseProse

/-- Who is told that a toggle was switched. -/
inductive Listener where
  /-- The engine's own listener, which keeps the replacement table in step. -/
  | keeper
  /-- A listener that only takes note. -/
  | observer (id : String)
deriving DecidableEq, Repr

/-- An announcement to a listener that does not act on it. -/
structure Announcement where
  observer : String
  toggle : Toggle
  value : Bool
deriving DecidableEq, Repr

/-- Tables that can be kept in step with the toggles. -/
class Synced (τ : Type) where
  /-- The tables with the replacement entries that a toggle stands for, or without them. -/
  sync : τ → Toggle → Bool → τ

instance : Synced Tables := ⟨Tables.sync⟩

/-- Settings, tables and a numeral configuration, with the listeners to the settings. -/
structure EngineWith (τ : Type) where
  settings : Settings
  tables : τ
  numerals : Numeral.Config
  listeners : List Listener

namespace EngineWith

variable {τ : Type}

/-- One more listener. -/
def listen (e : EngineWith τ) (l : Listener) : EngineWith τ :=
  { e with listeners := e.listeners ++ [l] }

/-- One listener fewer; of a listener that was added twice, only the first goes. -/
def unlisten (e : EngineWith τ) (l : Listener) : EngineWith τ :=
  { e with listeners := e.listeners.erase l }

/-- The engine with a toggle switched and no listener told. -/
def assign (e : EngineWith τ) (t : Toggle) (value : Bool) : EngineWith τ :=
  { e with settings := e.settings.switch t value }

variable [Synced τ]

/-- The engine of some settings and tables, its replacement table brought in step with
the toggles. -/
def make (settings : Settings) (tables : τ) (numerals : Numeral.Config) : EngineWith τ where
  settings := settings
  tables :=
    Synced.sync (Synced.sync tables .halfWidthExclamation (settings .halfWidthExclamation))
      .arabicNumerals (settings .arabicNumerals)
  numerals := numerals
  listeners := [.keeper]

/-- A new engine with the settings, tables and numeral configuration of another. -/
def copy (e : EngineWith τ) : EngineWith τ := make e.settings e.tables e.numerals

/-- One listener told of a toggle: the keeper acts on it, an observer takes note. -/
def tell (t : Toggle) (value : Bool) (state : τ × List Announcement) (l : Listener) :
    τ × List Announcement :=
  match l with
  | .keeper => (Synced.sync state.1 t value, state.2)
  | .observer id => (state.1, state.2 ++ [⟨id, t, value⟩])

/-- The engine with a toggle switched, and the announcements to observers. -/
def switch (e : EngineWith τ) (t : Toggle) (value : Bool) : EngineWith τ × List Announcement :=
  let (tables, announcements) := e.listeners.foldl (tell t value) (e.tables, [])
  ({ e with settings := e.settings.switch t value, tables := tables }, announcements)

/-- The engine with a toggle switched by name, and the announcements to observers. -/
def setOption (e : EngineWith τ) (name : String) (value : Bool) :
    Except Engine.Fault (EngineWith τ × List Announcement) :=
  match Toggle.ofName? name with
  | some t => .ok (e.switch t value)
  | none => .error (.unknownOption name)

end EngineWith

/-- An engine that goes by tables of texts. -/
abbrev Engine := EngineWith Tables

namespace Engine

/-- The engine of the defaults. -/
def standard : Engine := .make .allOn .standard { }

/-- The engine of the defaults with overrides by name. -/
def build (options : List (String × Bool)) (tables : List (String × TableValue))
    (numerals : Numeral.Config) : Except Fault Engine := do
  let settings ← Settings.allOn.overrideAll options
  let tables ← Tables.standard.overrideAll tables
  return .make settings tables numerals

end Engine

end JapaneseProse
