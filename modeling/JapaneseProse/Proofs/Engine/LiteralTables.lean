import JapaneseProse.Proofs.Engine.Overrides

/-!
# Tables of literal entries

Entries are put into patterns as they are.  Only if no character in them has a meaning of its own
there, the class of a table is that of the characters in its entries.  Otherwise it may be another
one, or there may be no such pattern at all.  So what is said of the rules is about tables that are
literal (`Tables.IsLiteral`).

* `Profile.IsLiteral.tables`: the standard tables are literal, so the tables of a profile are if
  those that it gives are.
* `Engine.entries_after`: calls leave the entries as they are, so literal tables stay literal.
-/

namespace JapaneseProse

/-- All tables have literal entries. -/
def Tables.IsLiteral (tables : Tables) : Prop := ∀ t, AreLiteral (tables.entries t)

/-- All tables that the profile gives have literal entries. -/
def Profile.IsLiteral (p : Profile) : Prop := ∀ t, ∀ l ∈ p.entries t, AreLiteral l

theorem Table.areLiteral_standard (t : Table) :
  AreLiteral t.standard
  := by
  cases t <;> decide

/-- If the tables that a profile gives are literal, all are, as the standard tables are. -/
theorem Profile.IsLiteral.tables {p : Profile} (h : p.IsLiteral) :
  p.tables.IsLiteral
  := by
  intro t
  change AreLiteral ((p.entries t).getD t.standard)
  cases hentries : p.entries t with
  | none => exact t.areLiteral_standard
  | some l => exact h t l hentries

namespace Engine

variable {e : Engine}

/-- To bring tables in step with the toggles leaves their entries as they are. -/
theorem isLiteral_make (settings : Settings) {tables : Tables} (h : tables.IsLiteral)
    (numerals : Numeral.Config) :
  (EngineWith.make settings tables numerals).tables.IsLiteral
  := h

/-- Whoever is told of a toggle leaves the entries as they are. -/
theorem entries_foldl_tell (t : Toggle) (value : Bool) (listeners : List Listener)
    (state : Tables × List Announcement) :
  (listeners.foldl (EngineWith.tell t value) state).1.entries = state.1.entries
  := by
  apply List.foldlRecOn
    (motive := fun s : Tables × List Announcement => s.1.entries = state.1.entries) listeners
  · rfl
  · intro s hs l _
    cases l with
    | keeper => exact hs
    | observer id => exact hs

/-- A call leaves the entries as they are. -/
theorem entries_perform (e : Engine) (call : Call) :
  (e.perform call).engine.tables.entries = e.tables.entries
  := by
  cases call with
  | convert | lint | run | listen | unlisten => rfl
  | setOption name value =>
      by_cases hname : name ∈ Toggle.all.map Toggle.name
      · obtain ⟨t, -, rfl⟩ := List.mem_map.mp hname
        rw [perform_setOption]
        apply entries_foldl_tell
      · rw [perform_setOption_of_unknown hname]

/-- Calls made one after another leave the entries as they are. -/
theorem entries_after (e : Engine) (calls : List Call) :
  (e.after calls).tables.entries = e.tables.entries
  := by
  apply List.foldlRecOn (motive := fun e' : Engine => e'.tables.entries = e.tables.entries) calls
  · rfl
  · intro e' he' call _
    rw [entries_perform, he']

/-- Literal tables stay literal, whatever calls are made. -/
theorem isLiteral_after (h : e.tables.IsLiteral) (calls : List Call) :
  (e.after calls).tables.IsLiteral
  := by
  rw [Tables.IsLiteral, entries_after]
  exact h

end Engine

end JapaneseProse
