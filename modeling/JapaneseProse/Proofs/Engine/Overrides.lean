import JapaneseProse.Engine.Export
import JapaneseProse.Loose.Agreement
import JapaneseProse.Profile.Basic
import JapaneseProse.Proofs.Engine.Session

/-!
# Engines from settings and tables by name

What is given by name goes before the default, and what is not given keeps it
(`overrideAll_options`, `overrideAll_tableValues`).

* `engine?_eq`: the engine of a profile.
* `build_named`: an engine built from all settings and tables by name is the one made of them.
-/

namespace JapaneseProse

/-! ### Toggles by name -/

theorem Settings.override_name (s : Settings) (t : Toggle) (value : Bool) :
  s.override t.name value = .ok (s.switch t value)
  := by
  rw [override, Toggle.ofName?_name]

/-- Toggles that are given by name go before the setting. -/
theorem Settings.overrideAll_filterMap (given : Toggle → Option Bool) (ts : List Toggle)
    (s : Settings) :
  s.overrideAll (ts.filterMap fun t => (given t).map fun value => (t.name, value)) =
    .ok fun u => if u ∈ ts then (given u).getD (s u) else s u
  := by
  induction ts generalizing s with
  | nil => rfl
  | cons t ts ih =>
      cases h : given t with
      | none =>
          rw [List.filterMap_cons_none (by rw [h]; rfl), ih]
          congr 1
          funext u
          by_cases hu : u = t
          · subst hu
            simp [h]
          · simp [hu]
      | some value =>
          rw [List.filterMap_cons_some (b := (t.name, value)) (by rw [h]; rfl), overrideAll,
            List.foldlM_cons, override_name]
          apply (ih (s.switch t value)).trans
          congr 1
          funext u
          by_cases hu : u = t
          · subst hu
            simp [h]
          · simp [hu, switch_other s value hu]

/-! ### Tables by name -/

theorem Table.ofName?_name (t : Table) :
  ofName? t.name = some t
  := by
  cases t <;> decide

theorem Tables.override_name (tables : Tables) (t : Table) (l : List Text) :
  tables.override t.name (.entries l) = .ok (tables.setEntries t l)
  := by
  have hmap : t.name ≠ "replace_map" := by cases t <;> decide
  have hnewline : t.name ≠ "newline" := by cases t <;> decide
  simp only [override, if_neg hmap, if_neg hnewline, Table.ofName?_name]
  rfl

/-- Tables of entries that are given by name go before the ones that are there. -/
theorem Tables.overrideAll_filterMap (given : Table → Option (List Text)) (ts : List Table)
    (tables : Tables) :
  tables.overrideAll (ts.filterMap fun t => (given t).map fun l => (t.name, .entries l)) =
    .ok { tables with
      entries := fun u => if u ∈ ts then (given u).getD (tables.entries u) else tables.entries u }
  := by
  induction ts generalizing tables with
  | nil => rfl
  | cons t ts ih =>
      cases h : given t with
      | none =>
          rw [List.filterMap_cons_none (by rw [h]; rfl), ih]
          congr 2
          funext u
          by_cases hu : u = t
          · subst hu
            simp [h]
          · simp [hu]
      | some l =>
          rw [List.filterMap_cons_some (b := (t.name, .entries l)) (by rw [h]; rfl), overrideAll,
            List.foldlM_cons, override_name]
          apply (ih (tables.setEntries t l)).trans
          congr 2
          funext u
          by_cases hu : u = t
          · subst hu
            simp [h]
          · simp [hu, entries_setEntries_other tables l hu]

theorem Tables.overrideAll_append (tables : Tables) (l l' : List (String × TableValue)) :
  tables.overrideAll (l ++ l') = (tables.overrideAll l).bind fun tables => tables.overrideAll l'
  := List.foldlM_append

/-- Tables that are given by name go before the ones that are there, whatever is given. -/
theorem Tables.overrideAll_given (map : Option ReplaceMap) (given : Table → Option (List Text))
    (newline : Option Text) (tables : Tables) :
  tables.overrideAll
      ((map.map fun m => ("replace_map", TableValue.pairs m.entries)).toList ++
        Table.all.filterMap (fun t => (given t).map fun l => (t.name, TableValue.entries l)) ++
        (newline.map fun s => ("newline", TableValue.text s)).toList) =
    .ok ⟨map.getD tables.replaceMap, fun t => (given t).getD (tables.entries t),
      newline.getD tables.newline⟩
  := by
  have hmap : tables.overrideAll
      (map.map fun m => ("replace_map", TableValue.pairs m.entries)).toList =
      .ok { tables with replaceMap := map.getD tables.replaceMap } := by
    cases map with
    | none => rfl
    | some m =>
        change Except.ok { tables with replaceMap := ReplaceMap.ofList m.entries } = _
        rw [ReplaceMap.ofList_entries]
        rfl
  rw [overrideAll_append, overrideAll_append, hmap, Except.bind, overrideAll_filterMap]
  cases newline <;> simp [Except.bind, Table.mem_all] <;> rfl

/-! ### Engines -/

namespace Profile

/-- The settings of the engine of a profile. -/
def settings (p : Profile) : Settings := fun t => (p.toggles t).getD true

/-- The tables of a profile, which are not in step with the toggles yet. -/
def tables (p : Profile) : Tables :=
  ⟨p.replaceMap.getD .empty, fun t => (p.entries t).getD (Table.standard t),
    p.newline.getD ['\n']⟩

theorem overrideAll_options (p : Profile) :
  Settings.allOn.overrideAll p.options = .ok p.settings
  := by
  rw [options, Settings.overrideAll_filterMap]
  simp only [Toggle.mem_all, if_true]
  rfl

theorem overrideAll_tableValues (p : Profile) :
  Tables.standard.overrideAll p.tableValues = .ok p.tables
  := Tables.overrideAll_given _ _ _ _

/-- The engine of a profile is made of what the profile says, and of the defaults for the rest. -/
theorem engine?_eq (p : Profile) :
  p.engine? = .ok (.make p.settings p.tables p.numerals)
  := by
  rw [engine?, Engine.build, overrideAll_options, overrideAll_tableValues]
  rfl

end Profile

/-- Settings that are given by name as a whole go before any others. -/
theorem Settings.overrideAll_named (settings others : Settings) :
  others.overrideAll settings.named = .ok settings
  := by
  have h := Settings.overrideAll_filterMap (fun t => some (settings t)) Toggle.all others
  simp only [Option.map_some, Option.getD_some, Toggle.mem_all, if_true,
    List.filterMap_eq_map'] at h
  exact h

/-- Tables that are given by name as a whole go before any others. -/
theorem Tables.overrideAll_named (tables others : Tables) :
  others.overrideAll tables.named = .ok tables
  := by
  have h := Tables.overrideAll_given (some tables.replaceMap) (fun t => some (tables.entries t))
    (some tables.newline) others
  simp only [Option.map_some, Option.getD_some, List.filterMap_eq_map'] at h
  exact h

/-- An engine that is built from all settings and tables by name is the one made of them. -/
theorem Engine.build_named (settings : Settings) (tables : Tables) (numerals : Numeral.Config) :
  Engine.build settings.named tables.named numerals = .ok (.make settings tables numerals)
  := by
  rw [build, Settings.overrideAll_named, Tables.overrideAll_named]
  rfl

end JapaneseProse
