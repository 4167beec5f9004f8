import JapaneseProse.Loose.Agreement
import JapaneseProse.Proofs.Numeral.Faults
import JapaneseProse.Proofs.Profile.Validation
import Mathlib.Tactic.Use

/-!
# The reader as a validation

Members are read one by one.  A toggle or a table has no violations and is read as something if and
only if it is taken (`taken_iff`), and so a whole profile has none if and only if it is accepted
(`isLawful_validation`).
-/

namespace JapaneseProse.Profile

open Json (Value Members)

variable {members blob : Members} {name : String} {v : Value}

/-! ### Members with violations -/

theorem under_eq_nil_iff {step : Step} {l : List Violation} :
  under step l = [] ↔ l = []
  := List.map_eq_nil_iff

theorem memberViolations_eq_nil_iff {check : Value → List Violation} :
  memberViolations members name check = [] ↔ ∀ v, member? members name = some v → check v = []
  := by
  rw [memberViolations]
  cases member? members name with
  | none => simp
  | some v => simp [under_eq_nil_iff]

theorem takenBy_eq_some_iff {α : Type} {check : Value → List Violation} {read : Value → Option α}
    {a : α} :
  takenBy check read v = some a ↔ check v = [] ∧ read v = some a
  := by
  rw [takenBy]
  split
  · rename_i hv
    rw [and_iff_right hv]
  · rename_i hv
    exact iff_of_false (fun h => nomatch h) (fun h => hv h.1)

/-- If what is written has no violations and is read back, a value is taken for what is written as
this value. -/
theorem takenBy_eq_some_iff_eq {α : Type} {check : Value → List Violation}
    {read : Value → Option α} {write : α → Value} {a : α} (hnull : read .null = none)
    (hcheck : ∀ a, check (write a) = []) (hread : ∀ a, read (write a) = some a)
    (hgiven : v ≠ .null → check v = [] → ∃ a, v = write a) :
  takenBy check read v = some a ↔ v = write a
  := by
  rw [takenBy_eq_some_iff]
  constructor
  · rintro ⟨h, ha⟩
    have hv : v ≠ .null := by
      rintro rfl
      rw [hnull] at ha
      cases ha
    obtain ⟨b, rfl⟩ := hgiven hv h
    rw [hread] at ha
    cases ha
    rfl
  · rintro rfl
    exact ⟨hcheck a, hread a⟩

/-- A member that may be null has no violations and is read as something, if it is taken. -/
theorem taken_iff {α : Type} {check : Value → List Violation} {read : Value → Option α}
    {a? : Option α} (hcheck : check .null = []) (hread : read .null = none)
    (hgiven : ∀ v, v ≠ .null → check v = [] → ∃ a, read v = some a) :
  memberViolations members name check = [] ∧ (member? members name).bind read = a? ↔
    Taken (takenBy check read) (member? members name) a?
  := by
  rw [memberViolations_eq_nil_iff]
  cases member? members name with
  | none =>
      constructor
      · rintro ⟨-, rfl⟩
        exact .missing
      · rintro ⟨⟩
        exact ⟨fun v hv => (nomatch hv), rfl⟩
  | some v =>
      simp only [Option.some.injEq, forall_eq', Option.bind_some]
      constructor
      · rintro ⟨hv, rfl⟩
        by_cases hnull : v = .null
        · subst hnull
          rw [hread]
          exact .null
        · obtain ⟨a, ha⟩ := hgiven v hnull hv
          rw [ha]
          apply Taken.given hnull (takenBy_eq_some_iff.mpr ⟨hv, ha⟩)
      · rintro (_ | _ | ⟨hnull, h⟩)
        · exact ⟨hcheck, hread⟩
        · exact takenBy_eq_some_iff.mp h

/-- A name has no violation and is read as something, if it is taken. -/
theorem takenOr_iff {α : Type} {read : Value → Option α} (violation : Violation) {default a : α} :
  memberViolations members name (fun v => if (read v).isSome then [] else [violation]) = [] ∧
      ((member? members name).bind read).getD default = a ↔
    TakenOr read default (member? members name) a
  := by
  rw [memberViolations_eq_nil_iff]
  cases member? members name with
  | none =>
      constructor
      · rintro ⟨-, rfl⟩
        exact .missing
      · rintro ⟨⟩
        exact ⟨fun v hv => (nomatch hv), rfl⟩
  | some v =>
      simp only [Option.some.injEq, forall_eq', Option.bind_some]
      cases hv : read v with
      | none =>
          constructor
          · rintro ⟨⟨⟩, -⟩
          · rintro (_ | h)
            rw [hv] at h
            cases h
      | some b =>
          constructor
          · rintro ⟨-, rfl⟩
            exact .given hv
          · rintro (_ | h)
            rw [hv] at h
            cases h
            exact ⟨rfl, rfl⟩

/-! ### Single values -/

theorem exists_of_checkWith_readToggle (hv : v ≠ .null) (h : checkWith readToggle v = []) :
  ∃ b, (readToggle v).toOption.join = some b
  := by
  rw [checkWith] at h
  cases hread : readToggle v with
  | error kind =>
      rw [hread] at h
      cases h
  | ok b? =>
      cases b? with
      | some b => exact ⟨b, rfl⟩
      | none =>
          cases v with
          | null => exact absurd rfl hv
          | number n => cases hn : readNumber n <;> simp [readToggle, hn, Except.map] at hread
          | string s => cases hs : readWord s <;> simp [readToggle, hs, Except.map] at hread
          | bool | array | object => cases hread

theorem texts_of_itemViolations {items : List Value} {i : Nat} (h : itemViolations i items = []) :
  items = (items.filterMap Value.text?).map .string
  := by
  induction items generalizing i with
  | nil => rfl
  | cons v items ih =>
      rw [itemViolations] at h
      cases v with
      | string s =>
          have hrest := ih h
          rw [List.filterMap_cons_some (f := Value.text?) (b := s) rfl, List.map_cons, ← hrest]
      | null | bool | number | array | object => cases h

theorem itemViolations_map_string (i : Nat) (l : List Text) :
  itemViolations i (l.map .string) = []
  := by
  induction l generalizing i with
  | nil => rfl
  | cons s l ih => apply ih

theorem readEntries_textsToJson (l : List Text) :
  readEntries (textsToJson l) = some l
  := by
  rw [textsToJson, readEntries, List.filterMap_map]
  congr 1
  apply List.filterMap_some

theorem exists_of_entriesViolations (hv : v ≠ .null) (h : entriesViolations v = []) :
  ∃ l, v = textsToJson l
  := by
  cases v with
  | null => exact absurd rfl hv
  | array items => exact ⟨_, congrArg _ (texts_of_itemViolations h)⟩
  | bool | number | string | object => cases h

theorem exists_readEntries (hv : v ≠ .null) (h : entriesViolations v = []) :
  ∃ l, readEntries v = some l
  := by
  obtain ⟨l, rfl⟩ := exists_of_entriesViolations hv h
  exact ⟨l, readEntries_textsToJson l⟩

theorem exists_text?_of_newlineViolations (hv : v ≠ .null) (h : newlineViolations v = []) :
  ∃ s, v.text? = some s
  := by
  cases v with
  | null => exact absurd rfl hv
  | string s => exact ⟨s, rfl⟩
  | bool | number | array | object => cases h

theorem texts_of_replaceMapViolations (h : replaceMapViolations (.object members) = []) :
  ∃ l : List (Text × Text), members = l.map fun e => (e.1, .string e.2)
  := by
  have htexts := List.filterMap_eq_nil_iff.mp h
  clear h
  induction members with
  | nil => exact ⟨[], rfl⟩
  | cons m members ih =>
      obtain ⟨hm, htexts⟩ := List.forall_mem_cons.mp htexts
      obtain ⟨l, rfl⟩ := ih htexts
      obtain ⟨key, v⟩ := m
      cases v with
      | string s => exact ⟨(key, s) :: l, rfl⟩
      | null | bool | number | array | object => cases hm

theorem replaceMapViolations_toJson (m : ReplaceMap) :
  replaceMapViolations m.toJson = []
  := by
  apply List.filterMap_eq_nil_iff.mpr
  intro e he
  obtain ⟨entry, -, rfl⟩ := List.mem_map.mp he
  rfl

theorem readReplaceMap_toJson (m : ReplaceMap) :
  readReplaceMap m.toJson = some m
  := by
  have hentries : ((m.entries.map fun e => (e.1, Value.string e.2)).filterMap fun m =>
      m.2.text?.map (m.1, ·)) = m.entries := by
    rw [List.filterMap_map]
    apply List.filterMap_some
  rw [ReplaceMap.toJson, readReplaceMap, hentries, ReplaceMap.ofList_entries]

theorem exists_readReplaceMap (hv : v ≠ .null) (h : replaceMapViolations v = []) :
  ∃ m, readReplaceMap v = some m
  := by
  cases v with
  | null => exact absurd rfl hv
  | object members => exact ⟨_, rfl⟩
  | bool | number | string | array => cases h

/-- The entries of a replacement table are in the order of the members that they are read from. -/
theorem exists_of_replaceMapViolations (hv : v ≠ .null) (hwell : v.WellFormed)
    (h : replaceMapViolations v = []) :
  ∃ m : ReplaceMap, v = m.toJson
  := by
  cases v with
  | null => exact absurd rfl hv
  | object members =>
      obtain ⟨l, rfl⟩ := texts_of_replaceMapViolations h
      have hnodup := hwell.nodup
      rw [List.map_map] at hnodup
      use .ofList l
      rw [ReplaceMap.toJson, ReplaceMap.entries_ofList hnodup]
  | bool | number | string | array => cases h

/-- What is read by its name is written as its name. -/
theorem bind_text?_eq_some_iff {α : Type} {ofName? : String → Option α} {nameOf : α → String}
    (hname : ∀ s a, ofName? s = some a ↔ nameOf a = s) {a : α} :
  (v.text?.bind fun s => ofName? (String.ofList s)) = some a ↔ v = .string (nameOf a).toList
  := by
  cases v with
  | string s =>
      change ofName? (String.ofList s) = some a ↔ _
      rw [hname, Value.string.injEq]
      constructor
      · intro h
        rw [h, String.toList_ofList]
      · rintro rfl
        rw [String.ofList_toList]
  | null | bool | number | array | object =>
      exact iff_of_false (fun h => nomatch h) (fun h => nomatch h)

/-! ### Parts -/

theorem unknownMembers_eq_nil_iff {known : List String} :
  unknownMembers members known = [] ↔ ∀ m ∈ members, String.ofList m.1 ∈ known
  := by
  rw [unknownMembers, List.map_eq_nil_iff, List.filter_eq_nil_iff]
  simp

/-- A part has no violations if it is missing or an object whose members have none. -/
theorem partViolations_eq_nil_iff {part : Part} {check : Members → List Violation}
    (hcheck : check [] = []) :
  partViolations members part check = [] ↔
    (∀ v, member? members part.name = some v → v.members?.isSome = true) ∧
      check (partMembers members part) = []
  := by
  rw [partViolations, memberViolations_eq_nil_iff, partMembers]
  cases member? members part.name with
  | none => simp [hcheck]
  | some v => cases hv : v.members? <;> simp [hv]

/-- A profile has no violations if its parts have none. -/
theorem violations_eq_nil_iff :
  violations blob = [] ↔
    (∀ part : Part, ∀ v, member? blob part.name = some v → v.members?.isSome = true) ∧
      optionsViolations (partMembers blob .options) = [] ∧
      tablesViolations (partMembers blob .tables) = [] ∧
      numeralsViolations (partMembers blob .numerals) = []
  := by
  rw [violations, List.append_eq_nil_iff, List.append_eq_nil_iff,
    partViolations_eq_nil_iff rfl, partViolations_eq_nil_iff rfl, partViolations_eq_nil_iff rfl]
  constructor
  · rintro ⟨⟨⟨hoptions, ho⟩, htables, ht⟩, hnumerals, hn⟩
    refine ⟨?_, ho, ht, hn⟩
    rintro (_ | _ | _)
    · exact hoptions
    · exact htables
    · exact hnumerals
  · rintro ⟨hpart, ho, ht, hn⟩
    exact ⟨⟨⟨hpart .options, ho⟩, hpart .tables, ht⟩, hpart .numerals, hn⟩

/-! ### The reader as a validation -/

theorem validate_eq_ok_iff {p : Profile} :
  validation.validate blob = .ok p ↔ violations blob = [] ∧ ofMembers blob = p
  := by
  simp only [validation]
  cases violations blob with
  | nil => simp
  | cons v vs => exact iff_of_false (fun h => nomatch h) (fun h => nomatch h.1)

theorem toggles_taken_iff {toggles : Toggle → Option Bool} :
  optionsViolations members = [] ∧
      (fun t : Toggle => (member? members t.name).bind fun v => (readToggle v).toOption.join) =
        toggles ↔
    (∀ m ∈ members, String.ofList m.1 ∈ Part.options.memberNames) ∧
      ∀ t, Taken validation.truth? (member? members t.name) (toggles t)
  := by
  rw [optionsViolations, List.append_eq_nil_iff, List.flatMap_eq_nil_iff, unknownMembers_eq_nil_iff,
    funext_iff]
  have htaken (t : Toggle) : memberViolations members t.name (checkWith readToggle) = [] ∧
      ((member? members t.name).bind fun v => (readToggle v).toOption.join) = toggles t ↔
        Taken validation.truth? (member? members t.name) (toggles t) :=
    taken_iff rfl rfl fun v => exists_of_checkWith_readToggle
  constructor
  · rintro ⟨⟨hchecks, hnames⟩, hreads⟩
    exact ⟨hnames, fun t => (htaken t).mp ⟨hchecks t t.mem_all, hreads t⟩⟩
  · rintro ⟨hnames, htoggles⟩
    exact ⟨⟨fun t _ => ((htaken t).mpr (htoggles t)).1, hnames⟩,
      fun t => ((htaken t).mpr (htoggles t)).2⟩

theorem tables_taken_iff {map? : Option ReplaceMap} {entries : Table → Option (List Text)}
    {newline? : Option Text} :
  tablesViolations members = [] ∧ (member? members "replace_map").bind readReplaceMap = map? ∧
      (fun t : Table => (member? members t.name).bind readEntries) = entries ∧
        (member? members "newline").bind Value.text? = newline? ↔
    (∀ m ∈ members, String.ofList m.1 ∈ Part.tables.memberNames) ∧
      Taken validation.replaceMap? (member? members "replace_map") map? ∧
        (∀ t, Taken validation.entries? (member? members t.name) (entries t)) ∧
          Taken validation.text? (member? members "newline") newline?
  := by
  have hmap : _ ↔ Taken validation.replaceMap? (member? members "replace_map") map? :=
    taken_iff rfl rfl fun v => exists_readReplaceMap
  have hnewline : _ ↔ Taken validation.text? (member? members "newline") newline? :=
    taken_iff rfl rfl fun v => exists_text?_of_newlineViolations
  have hentries (t : Table) : _ ↔ Taken validation.entries? (member? members t.name) (entries t) :=
    taken_iff rfl rfl fun v => exists_readEntries
  simp only [tablesViolations, List.append_eq_nil_iff, List.flatMap_eq_nil_iff, Table.mem_all,
    true_imp_iff, unknownMembers_eq_nil_iff, funext_iff, ← hmap, ← hnewline, ← hentries,
    forall_and]
  tauto

theorem numerals_taken_iff {mode : Numeral.Mode} {glyphs : Numeral.Glyphs} :
  numeralsViolations members = [] ∧
      ((member? members "mode").bind readMode).getD .simple = mode ∧
        ((member? members "char_mode").bind readGlyphs).getD .modern = glyphs ↔
    (∀ m ∈ members, String.ofList m.1 ∈ Part.numerals.memberNames) ∧
      TakenOr validation.mode? .simple (member? members "mode") mode ∧
        TakenOr validation.glyphs? .modern (member? members "char_mode") glyphs
  := by
  rw [numeralsViolations, List.append_eq_nil_iff, List.append_eq_nil_iff, unknownMembers_eq_nil_iff]
  change _ ↔ _ ∧ TakenOr readMode _ _ _ ∧ TakenOr readGlyphs _ _ _
  rw [← takenOr_iff ⟨.unknownMode, []⟩, ← takenOr_iff ⟨.unknownGlyphs, []⟩]
  tauto

/-- A profile without violations is accepted as what is read. -/
theorem accepts_iff {p : Profile} :
  validation.Accepts blob p ↔ violations blob = [] ∧ ofMembers blob = p
  := by
  obtain ⟨toggles, map?, entries, newline?, mode, glyphs⟩ := p
  rw [violations_eq_nil_iff, ofMembers, Profile.mk.injEq]
  constructor
  · intro h
    obtain ⟨hoptions, htoggles⟩ := toggles_taken_iff.mpr ⟨h.declared .options, h.toggles⟩
    obtain ⟨htables, hmap, hentries, hnewline⟩ :=
      tables_taken_iff.mpr ⟨h.declared .tables, h.replaceMap, h.entries, h.newline⟩
    obtain ⟨hnumerals, hmode, hglyphs⟩ :=
      numerals_taken_iff.mpr ⟨h.declared .numerals, h.mode, h.glyphs⟩
    exact ⟨⟨h.part, hoptions, htables, hnumerals⟩, htoggles, hmap, hentries, hnewline, hmode,
      hglyphs⟩
  · rintro ⟨⟨hpart, hoptions, htables, hnumerals⟩, htoggles, hmap, hentries, hnewline, hmode,
      hglyphs⟩
    obtain ⟨hnames, htoggles⟩ := toggles_taken_iff.mp ⟨hoptions, htoggles⟩
    obtain ⟨hnames', hmap, hentries, hnewline⟩ :=
      tables_taken_iff.mp ⟨htables, hmap, hentries, hnewline⟩
    obtain ⟨hnames'', hmode, hglyphs⟩ := numerals_taken_iff.mp ⟨hnumerals, hmode, hglyphs⟩
    refine ⟨hpart, ?_, htoggles, hmap, hentries, hnewline, hmode, hglyphs⟩
    rintro (_ | _ | _)
    · exact hnames
    · exact hnames'
    · exact hnames''

/-- The reader goes by the declared types. -/
theorem isLawful_validation :
  validation.IsLawful
  := by
  constructor
  · intro b
    rfl
  · intro v s
    cases v <;> simp [validation, takenBy, newlineViolations, Value.text?]
  · intro v l
    apply takenBy_eq_some_iff_eq rfl (itemViolations_map_string 0) readEntries_textsToJson
    exact exists_of_entriesViolations
  · intro v hwell m
    apply takenBy_eq_some_iff_eq rfl replaceMapViolations_toJson readReplaceMap_toJson
    exact fun hv => exists_of_replaceMapViolations hv hwell
  · intro v m
    apply bind_text?_eq_some_iff Numeral.Mode.ofName?_eq_some_iff
  · intro v g
    apply bind_text?_eq_some_iff Numeral.Glyphs.ofName?_eq_some_iff
  · intro blob _ p
    rw [validate_eq_ok_iff, accepts_iff]

end JapaneseProse.Profile
