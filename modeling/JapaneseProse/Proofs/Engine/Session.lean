import JapaneseProse.Engine.Session
import JapaneseProse.Proofs.ReplaceMap.Sync

/-!
# Engines in use stay in step

The replacement table of an engine in use follows the settings, the entries that were given at
first stay, and the engine's own listener stays the first one (`IsInStep`).  This holds of a new
engine (`isInStep_make`), every call keeps it (`IsInStep.perform`), and so do calls made one after
another (`IsInStep.after`).
-/

namespace JapaneseProse

/-! ### Names of toggles -/

namespace Toggle

theorem ofName?_name (t : Toggle) :
  ofName? t.name = some t
  := by
  cases t <;> decide

theorem ofName?_eq_none {name : String} (h : name ∉ all.map Toggle.name) :
  ofName? name = none
  := by
  apply List.find?_eq_none.mpr
  intro t ht hname
  apply h
  rw [← beq_iff_eq.mp hname]
  apply List.mem_map_of_mem ht

end Toggle

theorem Tables.sync_eq_of_follows {tables : Tables} {t : Toggle} {on : Bool}
    (h : tables.replaceMap.Follows t on) :
  tables.sync t on = tables
  := by
  rw [Tables.sync, h.sync_eq]

namespace Engine

variable {e : Engine} {given : Tables} {numerals : Numeral.Config}

/-- The replacement table follows the settings and has the given own entries, all else is as it
was given, and the listeners are the engine's own one and, behind it, observers. -/
structure IsInStep (given : Tables) (numerals : Numeral.Config) (e : Engine) : Prop where
  follows : ∀ t, e.tables.replaceMap.Follows t (e.settings t)
  ownEntries_eq : e.tables.replaceMap.ownEntries = given.replaceMap.ownEntries
  ownFirst : given.replaceMap.OwnFirst → e.tables.replaceMap.OwnFirst
  entries_eq : e.tables.entries = given.entries
  newline_eq : e.tables.newline = given.newline
  numerals_eq : e.numerals = numerals
  exists_observers : ∃ ids : List String, e.listeners = .keeper :: ids.map .observer

/-! ### What a call does -/

/-- Observers take note, one after another, and leave the tables as they are. -/
theorem foldl_tell_observers (t : Toggle) (value : Bool) (ids : List String)
    (state : Tables × List Announcement) :
  (ids.map Listener.observer).foldl (EngineWith.tell t value) state =
    (state.1, state.2 ++ ids.map fun id => ⟨id, t, value⟩)
  := by
  induction ids generalizing state with
  | nil => simp
  | cons id ids ih =>
      rw [List.map_cons, List.foldl_cons, ih]
      simp [EngineWith.tell]

/-- A toggle that is switched is announced once to each observer, and the table is brought in step
with it. -/
theorem switch_of_listeners {ids : List String} (h : e.listeners = .keeper :: ids.map .observer)
    (t : Toggle) (value : Bool) :
  e.switch t value =
    ({ e with settings := e.settings.switch t value, tables := e.tables.sync t value },
      ids.map fun id => ⟨id, t, value⟩)
  := by
  simp only [EngineWith.switch, h, List.foldl_cons, foldl_tell_observers]
  rfl

theorem perform_setOption (e : Engine) (t : Toggle) (value : Json.Value) :
  e.perform (.setOption t.name value) =
    ⟨.ok .done, (e.switch t value.isTruthy).2, (e.switch t value.isTruthy).1⟩
  := by
  rw [perform, EngineWith.setOption, Toggle.ofName?_name]

/-- A name of no toggle is a fault, of which nobody is told and which changes nothing. -/
theorem perform_setOption_of_unknown {name : String} (h : name ∉ Toggle.all.map Toggle.name)
    (e : Engine) (value : Json.Value) :
  e.perform (.setOption name value) = ⟨.error (.unknownOption name), [], e⟩
  := by
  rw [perform, EngineWith.setOption, Toggle.ofName?_eq_none h]

/-! ### In step, call by call -/

theorem isInStep_make (settings : Settings) (tables : Tables) (numerals : Numeral.Config) :
  IsInStep tables numerals (.make settings tables numerals)
  := by
  refine ⟨fun t => ?_, ?_, fun h => ?_, rfl, rfl, rfl, [], rfl⟩
  · by_cases hlast : t = .arabicNumerals
    · subst hlast
      apply ReplaceMap.follows_sync
    · apply ReplaceMap.Follows.sync _ hlast
      by_cases hfirst : t = .halfWidthExclamation
      · subst hfirst
        apply ReplaceMap.follows_sync
      · -- The other toggles stand for no entries.
        intro entry hkey
        cases t <;> contradiction
  · apply Eq.trans (ReplaceMap.ownEntries_sync _ _ _)
    apply ReplaceMap.ownEntries_sync
  · apply ReplaceMap.OwnFirst.sync
    apply h.sync

/-- An engine made of settings and tables that are in step already goes by just these. -/
theorem make_of_follows {settings : Settings} {tables : Tables}
    (h : ∀ t, tables.replaceMap.Follows t (settings t)) (numerals : Numeral.Config) :
  EngineWith.make settings tables numerals = ⟨settings, tables, numerals, [.keeper]⟩
  := by
  have hfirst := Tables.sync_eq_of_follows (h .halfWidthExclamation)
  have hlast := Tables.sync_eq_of_follows (h .arabicNumerals)
  change EngineWith.mk settings ((tables.sync .halfWidthExclamation _).sync .arabicNumerals _) _ _ =
    _
  rw [hfirst, hlast]

theorem IsInStep.switch (h : IsInStep given numerals e) (t : Toggle) (value : Bool) :
  IsInStep given numerals (e.switch t value).1
  := by
  obtain ⟨ids, hids⟩ := h.exists_observers
  rw [switch_of_listeners hids]
  refine ⟨fun u => ?_, ?_, fun hfirst => ?_, h.entries_eq, h.newline_eq, h.numerals_eq, ids, hids⟩
  · change (e.tables.replaceMap.sync t value).Follows u (e.settings.switch t value u)
    by_cases hu : u = t
    · subst hu
      rw [Settings.switch_same]
      apply ReplaceMap.follows_sync
    · rw [Settings.switch_other _ _ hu]
      apply (h.follows u).sync hu
  · rw [← h.ownEntries_eq]
    apply ReplaceMap.ownEntries_sync
  · apply (h.ownFirst hfirst).sync

theorem IsInStep.listen (h : IsInStep given numerals e) (id : String) :
  IsInStep given numerals (e.listen (.observer id))
  := by
  obtain ⟨ids, hids⟩ := h.exists_observers
  refine { h with exists_observers := ⟨ids ++ [id], ?_⟩ }
  rw [EngineWith.listen, hids, List.map_append]
  rfl

theorem IsInStep.unlisten (h : IsInStep given numerals e) (id : String) :
  IsInStep given numerals (e.unlisten (.observer id))
  := by
  obtain ⟨ids, hids⟩ := h.exists_observers
  refine { h with exists_observers := ⟨ids.erase id, ?_⟩ }
  have hinjective : Function.Injective Listener.observer := fun _ _ => Listener.observer.inj
  rw [EngineWith.unlisten, hids, List.map_erase hinjective]
  rfl

/-- Every call keeps an engine in step. -/
theorem IsInStep.perform (h : IsInStep given numerals e) (call : Call) :
  IsInStep given numerals (e.perform call).engine
  := by
  cases call with
  | convert | lint | run => exact h
  | setOption name value =>
      by_cases hname : name ∈ Toggle.all.map Toggle.name
      · obtain ⟨t, -, rfl⟩ := List.mem_map.mp hname
        rw [perform_setOption]
        apply h.switch
      · rw [perform_setOption_of_unknown hname]
        exact h
  | listen id => apply h.listen
  | unlisten id => apply h.unlisten

/-- Calls made one after another keep an engine in step. -/
theorem IsInStep.after (h : IsInStep given numerals e) (calls : List Call) :
  IsInStep given numerals (e.after calls)
  := by
  apply List.foldlRecOn calls _ h
  intro e he call _
  apply he.perform call

/-- Whatever calls are made on a new engine, its replacement table follows the toggles, and the
entries whose keys no toggle stands for are the given ones, in order.  The engine's own listener
stays the first one.  A toggle can always be switched by its name, and any other name is a fault
of which nobody is told and which changes nothing. -/
theorem replaceMap_follows_toggles (settings : Settings) (tables : Tables)
    (numerals : Numeral.Config) (calls : List Call) :
  let e := after (.make settings tables numerals) calls
  (∀ t : Toggle, ∀ entry ∈ t.impliedEntries,
      e.tables.replaceMap.get? entry.1 = if e.settings t then some entry.2 else none) ∧
    e.tables.replaceMap.ownEntries = tables.replaceMap.ownEntries ∧
    e.listeners.head? = some .keeper ∧
    (∀ (t : Toggle) (value : Json.Value),
      (e.perform (.setOption t.name value)).reply = .ok .done ∧
        (e.perform (.setOption t.name value)).engine.settings =
          e.settings.switch t value.isTruthy) ∧
    ∀ (name : String) (value : Json.Value), name ∉ Toggle.all.map Toggle.name →
      e.perform (.setOption name value) = ⟨.error (.unknownOption name), [], e⟩
  := by
  intro e
  have h : IsInStep tables numerals e := (isInStep_make settings tables numerals).after calls
  refine ⟨fun t entry hentry => ?_, h.ownEntries_eq, ?_, fun t value => ?_,
    fun name value hname => ?_⟩
  · apply (h.follows t).get?_eq hentry
  · obtain ⟨ids, hids⟩ := h.exists_observers
    rw [hids]
    rfl
  · rw [perform_setOption]
    exact ⟨rfl, rfl⟩
  · apply perform_setOption_of_unknown hname

/-- A toggle stands for an entry that was given, is switched off and on again while somebody
listens, and a name means nothing. -/
theorem replaceMap_follows_toggles_rewritten :
  let given : ReplaceMap := .ofList [(['!'], ['‼']), (['x'], ['!']), (['０'], ['零'])]
  let calls : List Call :=
    [.listen "log", .setOption "convert_half_exclam" (.bool false), .convert ['x', '!', '１'],
      .setOption "verbose" (.bool true), .unlisten "log",
      .setOption "convert_half_exclam" (.string ['n', 'o'])]
  let e := after (.make (Settings.allOn.switch .arabicNumerals false)
    { Tables.standard with replaceMap := given } { }) calls
  e.tables.replaceMap.entries = [(['x'], ['!']), (['!'], ['！']), (['?'], ['？'])] ∧
    (∀ entry ∈ Toggle.halfWidthExclamation.impliedEntries,
      e.tables.replaceMap.get? entry.1 =
        if e.settings .halfWidthExclamation then some entry.2 else none) ∧
    e.tables.replaceMap.ownEntries = given.ownEntries ∧
    e.listeners.head? = some .keeper ∧
    "verbose" ∉ Toggle.all.map Toggle.name ∧
    e.perform (.setOption "verbose" .null) = ⟨.error (.unknownOption "verbose"), [], e⟩
  := by
  intro given calls e
  have hname : "verbose" ∉ Toggle.all.map Toggle.name := by decide
  obtain ⟨hget, hown, hfirst, -, hunknown⟩ :=
    replaceMap_follows_toggles (Settings.allOn.switch .arabicNumerals false)
      { Tables.standard with replaceMap := given } { } calls
  exact ⟨by decide +kernel, hget _, hown, hfirst, hname, hunknown _ _ hname⟩

end Engine

end JapaneseProse
