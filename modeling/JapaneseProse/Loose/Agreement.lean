import JapaneseProse.Engine.Answer
import JapaneseProse.Loose.Engine

/-!
# Agreement of loose tables with tables of texts

Tables of texts can be seen as loose tables, and an engine with the ones as an engine with
the others.  Nothing is changed by this.

* The texts of the loose tables are those of the tables, but for an empty key, which
  replaces nothing anyway.
* Writing and erasing replacements, and bringing them in step with a toggle, can be done
  before or after.
* A text is converted and linted in the same way.
-/

namespace JapaneseProse

open Json (Value)

/-! ### Arrays of texts -/

theorem mapM_text?_map_string (l : List Text) :
  (l.map Value.string).mapM Value.text? = some l
  := by
  induction l with
  | nil => rfl
  | cons s l ih => simp [List.mapM_cons, Value.text?, ih]

theorem texts?_array_map_string (l : List Text) :
  (Value.array (l.map .string)).texts? = some l
  := mapM_text?_map_string l

theorem truthyTexts?_array_map_string (l : List Text) :
  LooseTables.truthyTexts? (.array (l.map .string)) = some (l.filter fun s => !s.isEmpty)
  := by
  simp only [LooseTables.truthyTexts?, Value.items?, Option.bind_some, List.filter_map]
  exact mapM_text?_map_string _

/-! ### Replacements -/

namespace ReplaceMap

theorem putAll_entries (m : ReplaceMap) (l : List (Text × Text))
    (h : (m.keys ++ l.map Prod.fst).Nodup) :
  (m.putAll l).entries = m.entries ++ l
  := by
  induction l generalizing m with
  | nil => simp [putAll]
  | cons e l ih =>
      have hk : e.1 ∉ m.keys := by
        intro hm
        rw [List.map_cons, List.nodup_append] at h
        exact h.2.2 _ hm _ (List.mem_cons_self) rfl
      have hput : (m.put e.1 e.2).entries = m.entries ++ [e] := by simp [put, hk]
      have hkeys : (m.put e.1 e.2).keys = m.keys ++ [e.1] := by simp [keys, hput]
      have := ih (m.put e.1 e.2) (by rw [hkeys]; simpa using h)
      rw [hput] at this
      simpa [putAll] using this

/-- The table of pairs whose keys all differ lists just these pairs. -/
theorem entries_ofList {l : List (Text × Text)} (h : (l.map Prod.fst).Nodup) :
  (ofList l).entries = l
  := by
  have := putAll_entries empty l (by simpa [keys, empty] using h)
  simpa [ofList, empty] using this

theorem ofList_entries (m : ReplaceMap) :
  ofList m.entries = m
  := ReplaceMap.ext (entries_ofList m.nodup)

end ReplaceMap

/-- An entry with an empty key can be left out. -/
theorem Replacement.foldl_filter (l : List (Text × Text)) (line : Text) :
  (l.filter fun e => !e.1.isEmpty).foldl applyEntry line = l.foldl applyEntry line
  := by
  induction l generalizing line with
  | nil => rfl
  | cons e l ih =>
      by_cases h : e.1 = []
      · simp [h, applyEntry, ih]
      · simp [h, ih]

namespace LooseMap

theorem texts?_ofReplaceMap (m : ReplaceMap) :
  (ofReplaceMap m).texts? = some (m.entries.filter fun e => !e.1.isEmpty)
  := by
  simp only [texts?, ofReplaceMap, List.filter_map]
  have : (fun e : Value × Value => e.1.isTruthy) ∘
      (fun e : Text × Text => (Value.string e.1, Value.string e.2)) = fun e => !e.1.isEmpty := rfl
  rw [this]
  induction m.entries.filter (fun e => !e.1.isEmpty) with
  | nil => rfl
  | cons e l ih =>
      rw [List.map_cons, List.mapM_cons, ih]
      rfl

theorem put_ofReplaceMap (m : ReplaceMap) (key value : Text) :
  (ofReplaceMap m).put (.string key) (.string value) = ofReplaceMap (m.put key value)
  := by
  by_cases h : key ∈ m.keys
  · have hany : (ofReplaceMap m).entries.any (fun e => e.1.isSameKey (.string key)) = true := by
      obtain ⟨e, he, rfl⟩ := List.mem_map.mp h
      simp only [ofReplaceMap, List.any_map, List.any_eq_true]
      exact ⟨e, he, by simp [Value.isSameKey]⟩
    rw [put, if_pos hany, ReplaceMap.put, dif_pos h]
    simp only [ofReplaceMap, ReplaceMap.overwrite, List.map_map, LooseMap.mk.injEq]
    apply List.map_congr_left
    intro e _
    by_cases he : e.1 = key <;> simp [Value.isSameKey, he]
  · have hany : (ofReplaceMap m).entries.any (fun e => e.1.isSameKey (.string key)) = false := by
      simp only [ofReplaceMap, List.any_map, List.any_eq_false]
      intro e he
      have : e.1 ≠ key := fun hk => h (List.mem_map.mpr ⟨e, he, hk⟩)
      simp [Value.isSameKey, this]
    rw [put, hany, ReplaceMap.put, dif_neg h]
    simp [ofReplaceMap]

theorem erase_ofReplaceMap (m : ReplaceMap) (key : Text) :
  (ofReplaceMap m).erase (.string key) = ofReplaceMap (m.erase key)
  := by
  simp only [erase, ofReplaceMap, ReplaceMap.erase, List.filter_map, LooseMap.mk.injEq]
  congr 1
  apply List.filter_congr
  intro e _
  by_cases he : e.1 = key <;> simp [Value.isSameKey, he]

theorem sync_ofReplaceMap (m : ReplaceMap) (t : Toggle) (on : Bool) :
  (ofReplaceMap m).sync t on = ofReplaceMap (m.sync t on)
  := by
  unfold sync ReplaceMap.sync
  cases on with
  | true =>
      simp only [if_true, ReplaceMap.putAll]
      induction t.impliedEntries generalizing m with
      | nil => rfl
      | cons e l ih => rw [List.foldl_cons, List.foldl_cons, put_ofReplaceMap, ih]
  | false =>
      simp only [Bool.false_eq_true, if_false, ReplaceMap.eraseAll]
      induction t.impliedEntries generalizing m with
      | nil => rfl
      | cons e l ih =>
          rw [List.foldl_cons, List.map_cons, List.foldl_cons, erase_ofReplaceMap, ih]

end LooseMap

/-! ### Tables -/

namespace LooseTables

theorem sync_ofTables (tables : Tables) (t : Toggle) (on : Bool) :
  (ofTables tables).sync t on = ofTables (tables.sync t on)
  := by
  simp [sync, ofTables, Tables.sync, LooseMap.sync_ofReplaceMap]

theorem entries_toTables_ofTables (tables : Tables) :
  (ofTables tables).toTables.entries = tables.entries
  := by
  funext t
  simp [toTables, ofTables, texts?_array_map_string]

theorem fix_toTables_ofTables (tables : Tables) (line : Text) :
  Replacement.fix (ofTables tables).toTables.replaceMap line =
    Replacement.fix tables.replaceMap line
  := by
  have hnodup : ((tables.replaceMap.entries.filter fun e => !e.1.isEmpty).map Prod.fst).Nodup :=
    tables.replaceMap.nodup.sublist (List.filter_sublist.map Prod.fst)
  simp only [toTables, ofTables, LooseMap.texts?_ofReplaceMap, Option.getD_some, Replacement.fix,
    ReplaceMap.entries_ofList hnodup]
  apply Replacement.foldl_filter

theorem fits_ofTables (tables : Tables) (settings : Settings) (used : Toggle → List Table) :
  (ofTables tables).fits settings used = true
  := by
  simp [fits, ofTables, texts?_array_map_string]

theorem fitsAtEnd_ofTables (tables : Tables) (settings : Settings) :
  (ofTables tables).fitsAtEnd settings = true
  := by
  simp [fitsAtEnd, ofTables, truthyTexts?_array_map_string]

theorem applyRules_congr (settings : Settings) {tables tables' : Tables}
    (h : tables.entries = tables'.entries) (line : Text) :
  applyRules settings tables line = applyRules settings tables' line
  := by
  simp only [applyRules, Tables.noGapBefore, h]

theorem lintLine_congr (settings : Settings) {tables tables' : Tables}
    (h : tables.entries = tables'.entries) (number : Nat) (line : Text) :
  JapaneseProse.lintLine settings tables number line =
    JapaneseProse.lintLine settings tables' number line
  := by
  simp only [JapaneseProse.lintLine, Tables.noGapReportedBefore, h]

/-- Tables of texts convert a line in the same way when they are seen as loose tables. -/
theorem convertLine_ofTables (settings : Settings) (tables : Tables) (numerals : Numeral.Config)
    (line : Text) :
  (ofTables tables).convertLine settings numerals line =
    (JapaneseProse.convertLine settings tables numerals line).mapError .numeral
  := by
  have hmap : (ofTables tables).replaceMap.texts?.isNone = false := by
    simp [ofTables, LooseMap.texts?_ofReplaceMap]
  simp only [convertLine, hmap, Bool.false_eq_true, if_false, JapaneseProse.convertLine,
    fix_toTables_ofTables, fits_ofTables, fitsAtEnd_ofTables, Bool.and_self, if_true,
    applyRules_congr settings (entries_toTables_ofTables tables)]
  cases convertNumerals (settings .arabicNumerals) numerals
      (Replacement.fix tables.replaceMap line) <;> rfl

/-- Tables of texts lint a line in the same way when they are seen as loose tables. -/
theorem lintLine_ofTables (settings : Settings) (tables : Tables) (number : Nat) (line : Text) :
  (ofTables tables).lintLine settings number line =
    .ok (JapaneseProse.lintLine settings tables number line)
  := by
  simp only [lintLine, fits_ofTables, if_true,
    lintLine_congr settings (entries_toTables_ofTables tables)]

theorem convertAndClose_ofTables (settings : Settings) (tables : Tables)
    (numerals : Numeral.Config) (line : Text) :
  (ofTables tables).convertAndClose settings numerals line =
    ((JapaneseProse.convertLine settings tables numerals line).map
      (· ++ tables.newline)).mapError .numeral
  := by
  simp only [convertAndClose, convertLine_ofTables]
  cases JapaneseProse.convertLine settings tables numerals line <;> rfl

end LooseTables

/-! ### Engines -/

namespace LooseEngine

/-- An engine with tables of texts, seen as one with loose tables. -/
def ofEngine (e : Engine) : LooseEngine :=
  ⟨e.settings, .ofTables e.tables, e.numerals, e.listeners⟩

theorem ofEngine_make (settings : Settings) (tables : Tables) (numerals : Numeral.Config) :
  ofEngine (.make settings tables numerals) = .make settings (.ofTables tables) numerals
  := by
  simp [ofEngine, EngineWith.make, Synced.sync, LooseTables.sync_ofTables]

theorem ofEngine_copy (e : Engine) :
  ofEngine e.copy = (ofEngine e).copy
  := ofEngine_make e.settings e.tables e.numerals

theorem foldl_tell_ofTables (t : Toggle) (value : Bool) (l : List Listener) (tables : Tables)
    (told : List Announcement) :
  l.foldl (EngineWith.tell t value) (LooseTables.ofTables tables, told) =
    (LooseTables.ofTables (l.foldl (EngineWith.tell t value) (tables, told)).1,
      (l.foldl (EngineWith.tell t value) (tables, told)).2)
  := by
  induction l generalizing tables told with
  | nil => rfl
  | cons listener l ih =>
      rw [List.foldl_cons, List.foldl_cons]
      cases listener with
      | keeper =>
          have h : EngineWith.tell t value (LooseTables.ofTables tables, told) .keeper =
              (LooseTables.ofTables (tables.sync t value), told) := by
            simp [EngineWith.tell, Synced.sync, LooseTables.sync_ofTables]
          rw [h]
          exact ih _ _
      | observer id => exact ih _ _

/-- A toggle is switched with the same outcome and the same announcements. -/
theorem switch_ofEngine (e : Engine) (t : Toggle) (value : Bool) :
  (ofEngine e).switch t value = (ofEngine (e.switch t value).1, (e.switch t value).2)
  := by
  simp only [EngineWith.switch, ofEngine, foldl_tell_ofTables]

theorem mapM_mapError {α β ε ε' : Type} (f : α → Except ε β) (g : ε → ε') (l : List α) :
  l.mapM (fun a => (f a).mapError g) = (l.mapM f).mapError g
  := by
  induction l with
  | nil => rfl
  | cons a l ih =>
      rw [List.mapM_cons, List.mapM_cons, ih]
      cases f a with
      | error fault => rfl
      | ok b => cases l.mapM f <;> rfl

theorem mapM_map_append (f : Text → Except Numeral.Fault Text) (newline : Text) (l : List Text) :
  (l.mapM fun line => (f line).map (· ++ newline)) = (l.mapM f).map (·.map (· ++ newline))
  := by
  induction l with
  | nil => rfl
  | cons line l ih =>
      rw [List.mapM_cons, List.mapM_cons, ih]
      cases f line with
      | error fault => rfl
      | ok out => cases l.mapM f <;> rfl

/-- An engine with tables of texts converts a text in the same way when it is seen as one
with loose tables. -/
theorem convert_ofEngine (e : Engine) (text : Text) :
  (ofEngine e).convert text = e.convert text
  := by
  have h : (ofEngine e).convert text =
      ((splitLines text).mapM fun line => ((convertLine e.settings e.tables e.numerals line).map
        (· ++ e.tables.newline)).mapError Engine.Fault.numeral).map List.flatten := by
    simp only [convert, ofEngine, funext (LooseTables.convertAndClose_ofTables _ _ _)]
    rfl
  rw [h, mapM_mapError, mapM_map_append]
  simp only [Engine.convert, Engine.process, convertText]
  cases (splitLines text).mapM (convertLine e.settings e.tables e.numerals) <;> rfl

theorem lintLinesFrom_ofEngine (e : Engine) (n : Nat) (lines : List Text) :
  (ofEngine e).lintLinesFrom n lines =
    .ok (JapaneseProse.lintLinesFrom e.settings e.tables n lines)
  := by
  induction lines generalizing n with
  | nil => rfl
  | cons line lines ih =>
      have h : (ofEngine e).tables.lintLine (ofEngine e).settings n line =
          .ok (lintLine e.settings e.tables n line) := LooseTables.lintLine_ofTables ..
      rw [lintLinesFrom, h, ih]
      rfl

/-- An engine with tables of texts lints a text in the same way when it is seen as one
with loose tables. -/
theorem lint_ofEngine (e : Engine) (text : Text) :
  (ofEngine e).lint text = e.lint text
  := by
  rw [lint, lintLinesFrom_ofEngine]
  rfl

theorem run_ofEngine (e : Engine) (text : Text) :
  (ofEngine e).run text = e.run text
  := by
  rw [run, lint_ofEngine, convert_ofEngine]
  rfl

end LooseEngine

end JapaneseProse
