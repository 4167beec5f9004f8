import JapaneseProse.Proofs.Engine.Overrides
import JapaneseProse.Proofs.Profile.Reader

/-!
# Profiles of settings and tables

Settings and tables that are handed out as the members of a profile are accepted
(`violations_membersOf`), and reading them back gives what was handed out (`toggles_membersOf`,
`settings_membersOf`, `tables_membersOf`).
-/

namespace JapaneseProse.Profile

open Json (Value Members)

variable {members : Members} {name : String} {v : Value}

/-- Where names do not repeat, a member is found by its name. -/
theorem member?_eq_some (hnodup : (members.map Prod.fst).Nodup) (h : (name.toList, v) ∈ members) :
  member? members name = some v
  := by
  induction members with
  | nil => exact absurd h List.not_mem_nil
  | cons m members ih =>
      obtain ⟨hm, hnodup⟩ := List.nodup_cons.mp hnodup
      rw [member?_cons]
      rcases List.mem_cons.mp h with rfl | h
      · apply if_pos rfl
      · have hne : name.toList ≠ m.1 := by
          rintro hname
          apply hm
          rw [← hname]
          apply List.mem_map_of_mem h
        rw [if_neg hne, ih hnodup h]

/-- A member that is found has no violations if the value under its name has none. -/
theorem memberViolations_eq_nil {check : Value → List Violation} (h : member? members name = some v)
    (hv : check v = []) :
  memberViolations members name check = []
  := by
  rw [memberViolations, h]
  apply under_eq_nil_iff.mpr hv

variable (settings : Settings) (tables : Tables)

/-! ### Toggles -/

theorem partMembers_options :
  partMembers (membersOf settings tables) .options =
    Toggle.all.map fun t => (t.name.toList, .bool (settings t))
  := List.map_map

theorem member?_options (t : Toggle) :
  member? (partMembers (membersOf settings tables) .options) t.name = some (.bool (settings t))
  := by
  rw [partMembers_options]
  apply member?_eq_some
  · rw [List.map_map]
    change (Toggle.all.map fun t => t.name.toList).Nodup
    decide
  · apply List.mem_map_of_mem t.mem_all

theorem optionsViolations_membersOf :
  optionsViolations (partMembers (membersOf settings tables) .options) = []
  := by
  apply List.append_eq_nil_iff.mpr ⟨_, _⟩
  · apply List.flatMap_eq_nil_iff.mpr
    intro t _
    apply memberViolations_eq_nil (member?_options settings tables t) rfl
  · rw [unknownMembers_eq_nil_iff, partMembers_options]
    intro m hm
    obtain ⟨t, ht, rfl⟩ := List.mem_map.mp hm
    rw [String.ofList_toList]
    apply List.mem_map_of_mem ht

/-! ### Tables -/

theorem partMembers_tables :
  partMembers (membersOf settings tables) .tables =
    ("replace_map".toList, tables.replaceMap.toJson) ::
      Table.all.map (fun t => (t.name.toList, textsToJson (tables.entries t))) ++
    [("newline".toList, .string tables.newline)]
  := rfl

theorem nodup_tableNames :
  ((partMembers (membersOf settings tables) .tables).map Prod.fst).Nodup
  := by
  rw [partMembers_tables, List.map_append, List.map_cons, List.map_map]
  change ("replace_map".toList :: Table.all.map (fun t => t.name.toList) ++
    ["newline".toList]).Nodup
  decide

theorem member?_replaceMap :
  member? (partMembers (membersOf settings tables) .tables) "replace_map" =
    some tables.replaceMap.toJson
  := by
  apply member?_eq_some (nodup_tableNames settings tables)
  rw [partMembers_tables]
  apply List.mem_cons_self

theorem member?_entries (t : Table) :
  member? (partMembers (membersOf settings tables) .tables) t.name =
    some (textsToJson (tables.entries t))
  := by
  apply member?_eq_some (nodup_tableNames settings tables)
  rw [partMembers_tables]
  apply List.mem_append_left _ (List.mem_cons_of_mem _ _)
  apply List.mem_map.mpr ⟨t, t.mem_all, rfl⟩

theorem member?_newline :
  member? (partMembers (membersOf settings tables) .tables) "newline" =
    some (.string tables.newline)
  := by
  apply member?_eq_some (nodup_tableNames settings tables)
  rw [partMembers_tables]
  apply List.mem_append_right _ (List.mem_singleton_self _)

theorem tablesViolations_membersOf :
  tablesViolations (partMembers (membersOf settings tables) .tables) = []
  := by
  have hunknown : unknownMembers (partMembers (membersOf settings tables) .tables)
      Part.tables.memberNames = [] := by
    rw [unknownMembers_eq_nil_iff, partMembers_tables]
    intro m hm
    rcases List.mem_append.mp hm with hm | hm
    · rcases List.mem_cons.mp hm with rfl | hm
      · apply List.mem_cons_self
      · obtain ⟨t, ht, rfl⟩ := List.mem_map.mp hm
        rw [String.ofList_toList]
        apply List.mem_cons_of_mem _ (List.mem_cons_of_mem _ (List.mem_map_of_mem ht))
    · obtain rfl := List.mem_singleton.mp hm
      apply List.mem_cons_of_mem _ List.mem_cons_self
  have hentries : (Table.all.flatMap fun t => memberViolations
      (partMembers (membersOf settings tables) .tables) t.name entriesViolations) = [] := by
    apply List.flatMap_eq_nil_iff.mpr
    intro t _
    apply memberViolations_eq_nil (member?_entries settings tables t)
    apply itemViolations_map_string
  rw [tablesViolations, hunknown, hentries,
    memberViolations_eq_nil (member?_replaceMap settings tables) (replaceMapViolations_toJson _),
    memberViolations_eq_nil (member?_newline settings tables) rfl]
  rfl

/-! ### Whole profiles -/

/-- What is handed out is accepted as a profile. -/
theorem violations_membersOf :
  violations (membersOf settings tables) = []
  := by
  have hparts : ∀ part : Part, ∀ v, member? (membersOf settings tables) part.name = some v →
      v.members?.isSome = true := by
    rintro (_ | _ | _) v hv
    · cases hv
      rfl
    · cases hv
      rfl
    · cases hv
  apply violations_eq_nil_iff.mpr ⟨hparts, _, _, rfl⟩
  · apply optionsViolations_membersOf
  · apply tablesViolations_membersOf

theorem toggles_membersOf (t : Toggle) :
  (ofMembers (membersOf settings tables)).toggles t = some (settings t)
  := by
  change (member? _ t.name).bind _ = _
  rw [member?_options]
  rfl

theorem settings_membersOf :
  (ofMembers (membersOf settings tables)).settings = settings
  := by
  funext t
  rw [Profile.settings, toggles_membersOf]
  rfl

theorem tables_membersOf :
  (ofMembers (membersOf settings tables)).tables = tables
  := by
  have hmap : (ofMembers (membersOf settings tables)).replaceMap = some tables.replaceMap := by
    change (member? _ "replace_map").bind _ = _
    rw [member?_replaceMap]
    apply readReplaceMap_toJson
  have hentries (t : Table) :
      (ofMembers (membersOf settings tables)).entries t = some (tables.entries t) := by
    change (member? _ t.name).bind _ = _
    rw [member?_entries]
    apply readEntries_textsToJson
  have hnewline : (ofMembers (membersOf settings tables)).newline = some tables.newline := by
    change (member? _ "newline").bind _ = _
    rw [member?_newline]
    rfl
  simp only [Profile.tables, hmap, hentries, hnewline, Option.getD_some]

end JapaneseProse.Profile
