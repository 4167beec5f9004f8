import JapaneseProse.Proofs.Engine.Store
import JapaneseProse.Proofs.Profile.Export

/-!
# Engines built from other engines

The settings and tables of an engine can be handed over as objects, by name or as parts of a
profile.  In every form, what is merged is what the engine goes by (`mergeSettings_handSettings`,
`mergeTables_handTables`), and bringing its table in step once more changes nothing.

* `rebuild_reproduces`: an engine built from the settings and tables of another goes by the same,
  and from then on neither notices what is switched in the other.
-/

namespace JapaneseProse.Store

variable {s s' : Store} {i : Place}

theorem growsTo_handTables (s : Store) (i : Place) (form : Form) :
  s.GrowsTo (s.handTables i form).1
  := by
  cases form with
  | object | profile => exact ⟨.refl _, .refl _, .refl _, .refl _⟩
  | named => apply growsTo_addReplaceMap

theorem next_handTables (s : Store) (i : Place) (form : Form) :
  (s.handTables i form).1.engines.next = s.engines.next
  := by
  cases form <;> rfl

/-- Settings that are handed over in any form are merged into just these settings. -/
theorem mergeSettings_handSettings (hsettings : s'.settings = s.settings) (i : Place)
    (form : Form) :
  s'.mergeSettings (s.handSettings i form) = .ok (s.engine i).settings
  := by
  cases form with
  | object =>
      rw [handSettings, mergeSettings, hsettings]
      rfl
  | named => apply Settings.overrideAll_named
  | profile =>
      apply (Profile.overrideAll_options _).trans
      rw [profile, Profile.settings_membersOf]

/-- Tables that are handed over in any form are merged into just these tables. -/
theorem mergeTables_handTables (s : Store) (i : Place) (form : Form) :
  (s.handTables i form).1.mergeTables (s.handTables i form).2 = .ok (s.engine i).tables
  := by
  cases form with
  | object => rfl
  | named =>
      have hvalues : (s.engine i).tables.named.map (fun o =>
          (o.1, (s.handTables i .named).1.valueOf (handTable s.replaceMaps.next o.2))) =
          (s.engine i).tables.named := by
        conv_rhs => rw [← List.map_id (s.engine i).tables.named]
        apply List.map_congr_left
        intro o ho
        rcases List.mem_append.mp ho with ho | ho
        · rcases List.mem_cons.mp ho with rfl | ho
          · simp [handTables, handTable, valueOf]
          · obtain ⟨t, -, rfl⟩ := List.mem_map.mp ho
            rfl
        · obtain rfl := List.mem_singleton.mp ho
          rfl
      rw [handTables, mergeTables, List.map_map]
      apply Eq.trans (congrArg _ hvalues)
      apply Tables.overrideAll_named
  | profile =>
      rw [handTables, mergeTables_values]
      apply (Profile.overrideAll_tableValues _).trans
      rw [profile, Profile.tables_membersOf]

theorem rebuild_eq (s : Store) (i : Place) (settingsForm tablesForm : Form)
    (numerals : Numeral.Config) :
  s.rebuild i settingsForm tablesForm numerals =
    .ok ((s.handTables i tablesForm).1.addEngine (s.engine i).settings (s.engine i).tables numerals)
  := by
  have hsettings : (s.handTables i tablesForm).1.settings = s.settings := by
    cases tablesForm <;> rfl
  rw [rebuild]
  simp only [build, mergeSettings_handSettings hsettings, mergeTables_handTables]
  rfl

/-- However a store came about, the settings and tables of each of its engines are accepted as a
profile, and in whatever form they are handed over, an engine can be built from them.  It goes by
the same settings and tables, the entries of its replacement table are in the same order, and all
other engines go on as before.  No engine notices later calls on others, and in particular neither
of the two those on the other one. -/
theorem rebuild_reproduces (h : s.Reachable) (hi : i < s.engines.next)
    (settingsForm tablesForm : Form) (numerals : Numeral.Config) :
  Profile.violations (Profile.membersOf (s.engine i).settings (s.engine i).tables) = [] ∧
    ∃ s', s.rebuild i settingsForm tablesForm numerals = .ok s' ∧
      s'.engines.next = s.engines.next + 1 ∧
      s'.engine s.engines.next = { s.engine i with numerals := numerals } ∧
      (∀ k < s.engines.next, s'.engine k = s.engine k) ∧
      ∀ k < s'.engines.next, ∀ calls : List Call,
        (∀ call ∈ calls, call.engine < s'.engines.next ∧ call.engine ≠ k) →
          (s'.after calls).engine k = s'.engine k
  := by
  have hs := h.isSeparate
  have hwhole := hs.isWhole i hi
  have hgrows := growsTo_handTables s i tablesForm
  have hnext := next_handTables s i tablesForm
  have hhanded := hs.of_growsTo hgrows hnext
  have hseparate := hhanded.addEngine (s.engine i).settings (s.engine i).tables numerals
  have hrebuilt := growsTo_addEngine (s.handTables i tablesForm).1 (s.engine i).settings
    (s.engine i).tables numerals
  refine ⟨Profile.violations_membersOf _ _, _, rebuild_eq s i settingsForm tablesForm numerals,
    ?_, ?_, ?_, ?_⟩
  · rw [addEngine_eq, ← hnext]
    rfl
  · rw [← hnext, engine_addEngine, Engine.make_of_follows hwhole.follows, ← hwhole.listeners_eq]
  · intro k hk
    rw [hhanded.engine_of_growsTo hrebuilt (hnext ▸ hk), hs.engine_of_growsTo hgrows hk]
  · intro k hk calls hcalls
    have hnone : (calls.filter fun call => call.engine = k) = [] := by
      apply List.filter_eq_nil_iff.mpr
      intro call hcall
      simpa using (hcalls call hcall).2
    rw [hseparate.engine_after hk calls fun call hcall => (hcalls call hcall).1, hnone]
    rfl

/-- An engine with a replacement table that somebody else has too, and marks that are switched off
and on again, handed over as an object and as a profile.  Then marks are switched off in it. -/
theorem rebuild_reproduces_switched :
  let given : ReplaceMap := .ofList [(['!'], ['‼']), (['x'], ['!'])]
  let shared : Store := { empty with replaceMaps := empty.replaceMaps.add given }
  let off : Call := ⟨0, "convert_half_exclam", .null⟩
  ∃ built, shared.build (.named [("convert_arabic_num", false)])
      (.named [("replace_map", .replaceMap 0)]) { } = .ok built ∧
    let s := built.after [off, ⟨0, "convert_half_exclam", .bool true⟩]
    s.Reachable ∧ 0 < s.engines.next ∧
      (s.engine 0).tables.replaceMap.entries = [(['x'], ['!']), (['!'], ['！']), (['?'], ['？'])] ∧
      ∃ s', s.rebuild 0 .object .profile { } = .ok s' ∧
        (s'.engine 1).tables.replaceMap.entries = (s.engine 0).tables.replaceMap.entries ∧
        (s'.after [off]).engine 1 = s'.engine 1 ∧
        ((s'.after [off]).engine 0).tables.replaceMap.entries = [(['x'], ['!'])]
  := by
  intro given shared off
  have hbuilt : shared.build (.named [("convert_arabic_num", false)])
      (.named [("replace_map", .replaceMap 0)]) { } =
        .ok (shared.addEngine (Settings.allOn.switch .arabicNumerals false)
          ⟨given, Table.standard, ['\n']⟩ { }) := by
    rfl
  refine ⟨_, hbuilt, ?_⟩
  intro s
  have hshared : shared.Reachable := .addReplaceMap .empty given
  have hs : s.Reachable := (Reachable.build hshared hbuilt).after (by decide)
  have hi : 0 < s.engines.next := by decide
  obtain ⟨-, s', hs', hnext, hengine, -, hother⟩ := rebuild_reproduces hs hi .object .profile { }
  have hcalls : ∀ call ∈ [off], call.engine < s'.engines.next ∧ call.engine ≠ 1 := by
    intro call hcall
    obtain rfl := List.mem_singleton.mp hcall
    rw [hnext]
    exact ⟨Nat.succ_pos _, Nat.zero_ne_one⟩
  refine ⟨hs, hi, by decide +kernel, s', hs', ?_, hother 1 ?_ [off] hcalls, ?_⟩
  · change (s'.engine s.engines.next).tables.replaceMap.entries = _
    rw [hengine]
  · rw [hnext]
    decide
  · obtain rfl := Except.ok.inj ((rebuild_eq s 0 .object .profile { }).symm.trans hs')
    decide +kernel

end JapaneseProse.Store
