import JapaneseProse.Engine.Store
import JapaneseProse.Proofs.Engine.Session
import JapaneseProse.Proofs.Json.Reader

/-!
# Engines do not share their objects

However engines are built, each has settings and a replacement table that no other engine has, and
listens to its own settings alone (`IsSeparate`).  This holds of all stores that come about
(`Reachable.isSeparate`).  So the engines of a store are engines in their own right:

* `map_engine_build`: a new engine is the one that is built from the same values where there are no
  objects.
* `engine_after`: after any calls, an engine is what the calls on itself make of an engine in use.
-/

namespace JapaneseProse

/-! ### Heaps that grow -/

namespace Heap

variable {α : Type}

/-- All objects that are there stay as they are. -/
structure GrowsTo (h h' : Heap α) : Prop where
  next_le : h.next ≤ h'.next
  get_eq : ∀ p < h.next, h'.get p = h.get p

theorem GrowsTo.refl (h : Heap α) :
  h.GrowsTo h
  := ⟨Nat.le_refl _, fun _ _ => rfl⟩

theorem growsTo_add (h : Heap α) (a : α) :
  h.GrowsTo (h.add a)
  := ⟨Nat.le_succ _, fun _ hp => get_add_of_lt h a hp⟩

/-- Changing an object that was added last is adding it changed. -/
theorem set_add_next (h : Heap α) (a b : α) :
  (h.add a).set h.next b = h.add b
  := by
  rw [set, add, add]
  congr 1
  funext p
  by_cases hp : p = h.next <;> simp [hp]

end Heap

namespace Store

variable {s s' : Store} {i k : Place}

/-! ### What an engine depends on -/

/-- All objects of the engine are as they were. -/
structure Keeps (s s' : Store) (i : Place) : Prop where
  engine_eq : s'.engines.get i = s.engines.get i
  settings_eq : s'.settings.get (s.engines.get i).settings = s.settingsOf i
  tables_eq : s'.tables.get (s.engines.get i).tables = s.tables.get (s.engines.get i).tables
  replaceMap_eq : s'.replaceMaps.get (s.mapPlace i) = s.replaceMaps.get (s.mapPlace i)

theorem Keeps.settingsOf_eq (h : s.Keeps s' i) :
  s'.settingsOf i = s.settingsOf i
  := by
  rw [settingsOf, h.engine_eq, h.settings_eq]

theorem Keeps.mapPlace_eq (h : s.Keeps s' i) :
  s'.mapPlace i = s.mapPlace i
  := by
  rw [mapPlace, h.engine_eq, h.tables_eq, mapPlace]

/-- An engine whose objects are as they were goes by what it went by. -/
theorem Keeps.eq (h : s.Keeps s' i) :
  s'.engine i = s.engine i
  := by
  have htables : s'.tablesAt (s.engines.get i).tables = s.tablesAt (s.engines.get i).tables := by
    rw [tablesAt, h.tables_eq, ← mapPlace, h.replaceMap_eq]
    rfl
  rw [engine, h.settingsOf_eq, h.engine_eq, htables]
  rfl

/-- All objects of all kinds that are there stay as they are. -/
structure GrowsTo (s s' : Store) : Prop where
  settings : s.settings.GrowsTo s'.settings
  tables : s.tables.GrowsTo s'.tables
  replaceMaps : s.replaceMaps.GrowsTo s'.replaceMaps
  engines : s.engines.GrowsTo s'.engines

/-- The objects of the engine are there, it listens to its own settings alone, and its replacement
table is in step with them. -/
structure IsWhole (s : Store) (i : Place) : Prop where
  settings_lt : (s.engines.get i).settings < s.settings.next
  tables_lt : (s.engines.get i).tables < s.tables.next
  mapPlace_lt : s.mapPlace i < s.replaceMaps.next
  told_eq : (s.settingsOf i).told = [(s.engines.get i).tables]
  isInStep : ∃ given, Engine.IsInStep given (s.engine i).numerals (s.engine i)

theorem IsWhole.follows (h : s.IsWhole i) (t : Toggle) :
  (s.engine i).tables.replaceMap.Follows t ((s.engine i).settings t)
  := by
  obtain ⟨given, hgiven⟩ := h.isInStep
  apply hgiven.follows

theorem IsWhole.listeners_eq (h : s.IsWhole i) :
  (s.engine i).listeners = [.keeper]
  := by
  rw [engine, h.told_eq]
  rfl

theorem IsWhole.keeps (h : s.IsWhole i) (hi : i < s.engines.next) (hs : s.GrowsTo s') :
  s.Keeps s' i
  where
  engine_eq := hs.engines.get_eq i hi
  settings_eq := hs.settings.get_eq _ h.settings_lt
  tables_eq := hs.tables.get_eq _ h.tables_lt
  replaceMap_eq := hs.replaceMaps.get_eq _ h.mapPlace_lt

/-- An engine whose objects are as they were is whole if it was. -/
theorem IsWhole.of_keeps (h : s.IsWhole i) (hi : s.Keeps s' i)
    (hsettings : s.settings.next ≤ s'.settings.next) (htables : s.tables.next ≤ s'.tables.next)
    (hmaps : s.replaceMaps.next ≤ s'.replaceMaps.next) :
  s'.IsWhole i
  where
  settings_lt := by
    rw [hi.engine_eq]
    apply Nat.lt_of_lt_of_le h.settings_lt hsettings
  tables_lt := by
    rw [hi.engine_eq]
    apply Nat.lt_of_lt_of_le h.tables_lt htables
  mapPlace_lt := by
    rw [hi.mapPlace_eq]
    apply Nat.lt_of_lt_of_le h.mapPlace_lt hmaps
  told_eq := by
    rw [hi.settingsOf_eq, hi.engine_eq, h.told_eq]
  isInStep := by
    rw [hi.eq]
    exact h.isInStep

/-- All engines are whole, and no two of them have the same replacement table. -/
structure IsSeparate (s : Store) : Prop where
  isWhole : ∀ i < s.engines.next, s.IsWhole i
  mapPlace_ne : ∀ i < s.engines.next, ∀ k < s.engines.next, i ≠ k → s.mapPlace i ≠ s.mapPlace k

/-- Engines with replacement tables of their own have settings of their own. -/
theorem IsSeparate.settings_ne (h : s.IsSeparate) (hi : i < s.engines.next)
    (hk : k < s.engines.next) (hne : i ≠ k) :
  (s.engines.get i).settings ≠ (s.engines.get k).settings
  := by
  intro hsettings
  have htold : (s.settingsOf i).told = (s.settingsOf k).told := by
    rw [settingsOf, settingsOf, hsettings]
  rw [(h.isWhole i hi).told_eq, (h.isWhole k hk).told_eq] at htold
  apply h.mapPlace_ne i hi k hk hne
  rw [mapPlace, mapPlace, List.singleton_inj.mp htold]

/-! ### More objects -/

theorem IsSeparate.mapPlace_of_growsTo (h : s.IsSeparate) (hs : s.GrowsTo s')
    (hi : i < s.engines.next) :
  s'.mapPlace i = s.mapPlace i
  := ((h.isWhole i hi).keeps hi hs).mapPlace_eq

theorem IsSeparate.engine_of_growsTo (h : s.IsSeparate) (hs : s.GrowsTo s')
    (hi : i < s.engines.next) :
  s'.engine i = s.engine i
  := ((h.isWhole i hi).keeps hi hs).eq

theorem IsSeparate.isWhole_of_growsTo (h : s.IsSeparate) (hs : s.GrowsTo s')
    (hi : i < s.engines.next) :
  s'.IsWhole i
  := (h.isWhole i hi).of_keeps ((h.isWhole i hi).keeps hi hs) hs.settings.next_le
    hs.tables.next_le hs.replaceMaps.next_le

/-- New objects that belong to no engine disturb none. -/
theorem IsSeparate.of_growsTo (h : s.IsSeparate) (hs : s.GrowsTo s')
    (hnext : s'.engines.next = s.engines.next) :
  s'.IsSeparate
  := by
  constructor
  · intro i hi
    apply h.isWhole_of_growsTo hs (hnext ▸ hi)
  · intro i hi k hk hne
    rw [hnext] at hi hk
    rw [h.mapPlace_of_growsTo hs hi, h.mapPlace_of_growsTo hs hk]
    apply h.mapPlace_ne i hi k hk hne

theorem growsTo_addSettings (s : Store) (o : SettingsObject) :
  s.GrowsTo { s with settings := s.settings.add o }
  := ⟨s.settings.growsTo_add o, .refl _, .refl _, .refl _⟩

theorem growsTo_addTables (s : Store) (o : TablesObject) :
  s.GrowsTo { s with tables := s.tables.add o }
  := ⟨.refl _, s.tables.growsTo_add o, .refl _, .refl _⟩

theorem growsTo_addReplaceMap (s : Store) (m : ReplaceMap) :
  s.GrowsTo { s with replaceMaps := s.replaceMaps.add m }
  := ⟨.refl _, .refl _, s.replaceMaps.growsTo_add m, .refl _⟩

/-! ### New engines -/

section

variable (s : Store) (settings : Settings) (tables : Tables) (numerals : Numeral.Config)

/-- A new engine has new objects, which hold what an engine made of what is given goes by. -/
theorem addEngine_eq :
  s.addEngine settings tables numerals =
    { settings := s.settings.add ⟨settings, [s.tables.next]⟩
      tables := s.tables.add ⟨s.replaceMaps.next, tables.entries, tables.newline⟩
      replaceMaps := s.replaceMaps.add (EngineWith.make settings tables numerals).tables.replaceMap
      engines := s.engines.add ⟨s.settings.next, s.tables.next, numerals⟩ }
  := by
  simp only [addEngine, addTables, sync, Heap.get_add_next, Heap.set_add_next]
  rfl

theorem growsTo_addEngine :
  s.GrowsTo (s.addEngine settings tables numerals)
  := by
  rw [addEngine_eq]
  exact ⟨s.settings.growsTo_add _, s.tables.growsTo_add _, s.replaceMaps.growsTo_add _,
    s.engines.growsTo_add _⟩

/-- A new engine goes by what is given, as if there were no objects. -/
theorem engine_addEngine :
  (s.addEngine settings tables numerals).engine s.engines.next = .make settings tables numerals
  := by
  rw [addEngine_eq, engine, settingsOf, tablesAt]
  simp only [Heap.get_add_next]
  rfl

theorem isWhole_addEngine :
  (s.addEngine settings tables numerals).IsWhole s.engines.next
  := by
  have hengine := engine_addEngine s settings tables numerals
  constructor
  · rw [addEngine_eq]
    simp
  · rw [addEngine_eq]
    simp
  · rw [addEngine_eq]
    simp [mapPlace]
  · rw [addEngine_eq]
    simp [settingsOf]
  · rw [hengine]
    exact ⟨tables, Engine.isInStep_make settings tables numerals⟩

theorem mapPlace_addEngine :
  (s.addEngine settings tables numerals).mapPlace s.engines.next = s.replaceMaps.next
  := by
  rw [addEngine_eq]
  simp [mapPlace]

end

/-- Values that are given by name are put on top of the default tables. -/
theorem mergeTables_values (s : Store) (l : List (String × TableValue)) :
  s.mergeTables (.named (l.map fun o => (o.1, .value o.2))) = Tables.standard.overrideAll l
  := by
  rw [mergeTables, List.map_map]
  apply congrArg _ (List.map_id l)

/-- An engine that is built from values by name is the one that is built from them where there are
no objects, and what is a fault there is the same fault here. -/
theorem map_engine_build (s : Store) (options : List (String × Bool))
    (tables : List (String × TableValue)) (numerals : Numeral.Config) :
  (s.build (.named options) (.named (tables.map fun o => (o.1, .value o.2))) numerals).map
      (fun s' => s'.engine s.engines.next) =
    Engine.build options tables numerals
  := by
  rw [build, mergeTables_values, mergeSettings, Engine.build]
  cases Settings.allOn.overrideAll options with
  | error fault => rfl
  | ok settings =>
      cases Tables.standard.overrideAll tables with
      | error fault => rfl
      | ok tables => apply congrArg Except.ok (engine_addEngine s settings tables numerals)

/-- A new engine shares nothing with the others. -/
theorem IsSeparate.addEngine (h : s.IsSeparate) (settings : Settings) (tables : Tables)
    (numerals : Numeral.Config) :
  (s.addEngine settings tables numerals).IsSeparate
  := by
  have hs := growsTo_addEngine s settings tables numerals
  have hnext : (s.addEngine settings tables numerals).engines.next = s.engines.next + 1 := by
    rw [addEngine_eq]
    rfl
  -- The replacement table of an engine from before is not the new one.
  have hold : ∀ i < s.engines.next, (s.addEngine settings tables numerals).mapPlace i ≠
      (s.addEngine settings tables numerals).mapPlace s.engines.next := by
    intro i hi
    rw [h.mapPlace_of_growsTo hs hi, mapPlace_addEngine]
    apply Nat.ne_of_lt (h.isWhole i hi).mapPlace_lt
  constructor
  · intro i hi
    rw [hnext] at hi
    rcases Nat.lt_succ_iff_lt_or_eq.mp hi with hi | rfl
    · apply h.isWhole_of_growsTo hs hi
    · apply isWhole_addEngine
  · intro i hi k hk hne
    rw [hnext] at hi hk
    rcases Nat.lt_succ_iff_lt_or_eq.mp hi with hi | rfl <;>
      rcases Nat.lt_succ_iff_lt_or_eq.mp hk with hk | rfl
    · rw [h.mapPlace_of_growsTo hs hi, h.mapPlace_of_growsTo hs hk]
      apply h.mapPlace_ne i hi k hk hne
    · apply hold i hi
    · apply (hold k hk).symm
    · contradiction

/-! ### Calls -/

/-- A toggle of an engine is switched in its own settings, and its own table is brought in step. -/
theorem IsWhole.switch_eq (h : s.IsWhole i) (t : Toggle) (value : Bool) :
  s.switch (s.engines.get i).settings t value =
    { s with
      settings := s.settings.set (s.engines.get i).settings
        ⟨(s.engine i).settings.switch t value, [(s.engines.get i).tables]⟩
      replaceMaps := s.replaceMaps.set (s.mapPlace i)
        ((s.engine i).tables.replaceMap.sync t value) }
  := by
  rw [switch, ← settingsOf]
  simp only [h.told_eq, List.foldl_cons, List.foldl_nil]
  rfl

/-- The engine whose toggle is switched is what it would be without objects. -/
theorem IsWhole.engine_switch (h : s.IsWhole i) (t : Toggle) (value : Bool) :
  (s.switch (s.engines.get i).settings t value).engine i = ((s.engine i).switch t value).1
  := by
  have hids : (s.engine i).listeners = .keeper :: ([] : List String).map .observer := h.listeners_eq
  rw [Engine.switch_of_listeners hids, h.listeners_eq, h.switch_eq]
  simp only [engine, settingsOf, tablesAt, mapPlace, Heap.get_set_same]
  rfl

/-- An engine with other objects notices nothing. -/
theorem IsSeparate.keeps_switch (h : s.IsSeparate) (hi : i < s.engines.next)
    (hk : k < s.engines.next) (hne : i ≠ k) (t : Toggle) (value : Bool) :
  s.Keeps (s.switch (s.engines.get i).settings t value) k
  := by
  rw [(h.isWhole i hi).switch_eq]
  refine ⟨rfl, ?_, rfl, ?_⟩
  · apply Heap.get_set_of_ne _ _ (h.settings_ne hk hi hne.symm)
  · apply Heap.get_set_of_ne _ _ (h.mapPlace_ne k hk i hi hne.symm)

theorem IsSeparate.switch (h : s.IsSeparate) (hi : i < s.engines.next) (t : Toggle)
    (value : Bool) :
  (s.switch (s.engines.get i).settings t value).IsSeparate
  := by
  have hwhole := h.isWhole i hi
  have heq := hwhole.switch_eq t value
  have hengine := hwhole.engine_switch t value
  constructor
  · intro k hk
    rw [heq] at hk
    by_cases hne : i = k
    · subst hne
      obtain ⟨given, hgiven⟩ := hwhole.isInStep
      constructor
      · rw [heq]
        exact hwhole.settings_lt
      · rw [heq]
        exact hwhole.tables_lt
      · rw [heq]
        exact hwhole.mapPlace_lt
      · rw [heq, settingsOf, Heap.get_set_same]
      · rw [hengine]
        use given
        have hswitched := hgiven.switch t value
        exact { hswitched with numerals_eq := rfl }
    · have hkeeps := h.keeps_switch hi hk hne t value
      apply (h.isWhole k hk).of_keeps hkeeps <;> rw [heq] <;> apply Nat.le_refl
  · rw [heq]
    exact h.mapPlace_ne

/-- A call switches a toggle of the engine, or fails and changes nothing. -/
theorem perform_cases (s : Store) (call : Call) :
  (∃ t : Toggle, Toggle.ofName? call.name = some t ∧
      s.perform call = s.switch (s.engines.get call.engine).settings t call.value.isTruthy) ∨
    (Toggle.ofName? call.name = none ∧ s.perform call = s)
  := by
  rw [perform, setOption]
  cases Toggle.ofName? call.name with
  | some t => exact .inl ⟨t, rfl, rfl⟩
  | none => exact .inr ⟨rfl, rfl⟩

theorem IsSeparate.perform (h : s.IsSeparate) {call : Call} (hcall : call.engine < s.engines.next) :
  (s.perform call).IsSeparate
  := by
  rcases s.perform_cases call with ⟨t, -, hperform⟩ | ⟨-, hperform⟩
  · rw [hperform]
    apply h.switch hcall
  · rw [hperform]
    exact h

theorem IsSeparate.next_perform (h : s.IsSeparate) {call : Call}
    (hcall : call.engine < s.engines.next) :
  (s.perform call).engines.next = s.engines.next
  := by
  rcases s.perform_cases call with ⟨t, -, hperform⟩ | ⟨-, hperform⟩
  · rw [hperform, (h.isWhole _ hcall).switch_eq]
  · rw [hperform]

/-- A call on an engine does what it does to an engine in use. -/
theorem IsSeparate.engine_perform (h : s.IsSeparate) {call : Call}
    (hcall : call.engine < s.engines.next) :
  (s.perform call).engine call.engine = ((s.engine call.engine).perform call.own).engine
  := by
  rw [Call.own, Engine.perform, EngineWith.setOption]
  rcases s.perform_cases call with ⟨t, ht, hperform⟩ | ⟨hnone, hperform⟩
  · rw [hperform, (h.isWhole _ hcall).engine_switch, ht]
  · rw [hperform, hnone]

/-- A call on an engine changes no other engine. -/
theorem IsSeparate.engine_perform_of_ne (h : s.IsSeparate) {call : Call}
    (hcall : call.engine < s.engines.next) (hk : k < s.engines.next) (hne : call.engine ≠ k) :
  (s.perform call).engine k = s.engine k
  := by
  rcases s.perform_cases call with ⟨t, -, hperform⟩ | ⟨-, hperform⟩
  · rw [hperform]
    apply (h.keeps_switch hcall hk hne _ _).eq
  · rw [hperform]

/-- After calls on any engines, an engine is what the calls on itself make of it. -/
theorem IsSeparate.engine_after (h : s.IsSeparate) (hk : k < s.engines.next) (calls : List Call)
    (hcalls : ∀ call ∈ calls, call.engine < s.engines.next) :
  (s.after calls).engine k =
    (s.engine k).after ((calls.filter fun call => call.engine = k).map Call.own)
  := by
  induction calls generalizing s with
  | nil => rfl
  | cons call calls ih =>
      obtain ⟨hcall, hcalls⟩ := List.forall_mem_cons.mp hcalls
      have hnext := h.next_perform hcall
      have hrest := ih (h.perform hcall) (hnext ▸ hk) (hnext ▸ hcalls)
      change ((s.perform call).after calls).engine k = _
      rw [hrest]
      by_cases hne : call.engine = k
      · subst hne
        rw [h.engine_perform hcall, List.filter_cons_of_pos (by simp)]
        rfl
      · rw [h.engine_perform_of_ne hcall hk hne, List.filter_cons_of_neg (by simpa using hne)]

/-! ### Stores that come about -/

/-- The stores that come about when objects are added, engines are built and toggles of engines are
switched, in any order. -/
inductive Reachable : Store → Prop where
  | empty : Reachable empty
  | addSettings {s : Store} (h : Reachable s) (o : SettingsObject) :
      Reachable { s with settings := s.settings.add o }
  | addTables {s : Store} (h : Reachable s) (o : TablesObject) :
      Reachable { s with tables := s.tables.add o }
  | addReplaceMap {s : Store} (h : Reachable s) (m : ReplaceMap) :
      Reachable { s with replaceMaps := s.replaceMaps.add m }
  | build {s s' : Store} {settings : SettingsSource} {tables : TablesSource}
      {numerals : Numeral.Config} (h : Reachable s)
      (hbuild : s.build settings tables numerals = .ok s') : Reachable s'
  | perform {s : Store} {call : Call} (h : Reachable s) (hcall : call.engine < s.engines.next) :
      Reachable (s.perform call)

theorem exists_of_build_eq_ok {settingsSource : SettingsSource} {tablesSource : TablesSource}
    (h : s.build settingsSource tablesSource numerals = .ok s') :
  ∃ settings tables, s' = s.addEngine settings tables numerals
  := by
  rw [build] at h
  obtain ⟨settings, -, h⟩ := Json.exists_of_bind_eq_ok h
  obtain ⟨tables, -, h⟩ := Json.exists_of_bind_eq_ok h
  cases h
  exact ⟨settings, tables, rfl⟩

theorem Reachable.isSeparate (h : s.Reachable) :
  s.IsSeparate
  := by
  induction h with
  | empty =>
      constructor
      · intro i hi
        contradiction
      · intro i hi
        contradiction
  | addSettings _ o ih => exact ih.of_growsTo (growsTo_addSettings _ o) rfl
  | addTables _ o ih => exact ih.of_growsTo (growsTo_addTables _ o) rfl
  | addReplaceMap _ m ih => exact ih.of_growsTo (growsTo_addReplaceMap _ m) rfl
  | build _ hbuild ih =>
      obtain ⟨settings, tables, rfl⟩ := exists_of_build_eq_ok hbuild
      exact ih.addEngine settings tables _
  | perform _ hcall ih => exact ih.perform hcall

theorem Reachable.after (h : s.Reachable) {calls : List Call}
    (hcalls : ∀ call ∈ calls, call.engine < s.engines.next) :
  (s.after calls).Reachable
  := by
  induction calls generalizing s with
  | nil => exact h
  | cons call calls ih =>
      obtain ⟨hcall, hcalls⟩ := List.forall_mem_cons.mp hcalls
      apply ih (h.perform hcall)
      rw [h.isSeparate.next_perform hcall]
      exact hcalls

end Store

end JapaneseProse
