import JapaneseProse.CommandLine.Command
import JapaneseProse.Proofs.Engine.Overrides
import JapaneseProse.Proofs.Profile.Reader
import Mathlib.Data.List.Permutation

/-!
# The engine that arguments ask for

What is said on the command line goes before what the profile says, and this goes before the
default, toggle by toggle and table by table (`IsConfigured`).  The replacement table is brought in
step with the toggles that come of all this.

* `isConfigured_of_profile`: a profile that a lawful validation accepts and known toggles give an
  engine that is configured like this, which is also the engine built from the same values by name,
  and members of the profile that are null may as well be missing.
-/

namespace JapaneseProse.CommandLine

open Json (Value Members)
open Profile (Validation Gives member? partMembers withoutNulls)

variable {V : Validation}

/-- The engine goes by what is said on the command line, or else by what the members of a profile
say to the validation, or else by the default.  The replacement table before it is brought in step
is `map`. -/
structure IsConfigured (V : Validation) (blob : Members) (disabled : List Toggle)
    (mode : Option Numeral.Mode) (glyphs : Option Numeral.Glyphs) (map : ReplaceMap)
    (e : Engine) : Prop where
  toggle_of_mem : ∀ t ∈ disabled, e.settings t = false
  toggle_of_not_mem : ∀ t ∉ disabled,
    Gives V.Says true (member? (partMembers blob .options) t.name) (e.settings t)
  map_given : Gives (fun v (m : ReplaceMap) => v = m.toJson) .empty
    (member? (partMembers blob .tables) "replace_map") map
  replaceMap_eq : e.tables.replaceMap =
    (map.sync .halfWidthExclamation (e.settings .halfWidthExclamation)).sync
      .arabicNumerals (e.settings .arabicNumerals)
  entries_given : ∀ t, Gives (fun v l => v = .array (l.map .string)) t.standard
    (member? (partMembers blob .tables) t.name) (e.tables.entries t)
  newline_given : Gives (fun v s => v = .string s) ['\n']
    (member? (partMembers blob .tables) "newline") e.tables.newline
  mode_eq : ∃ m, Gives (fun v (m : Numeral.Mode) => v = .string m.name.toList) .simple
    (member? (partMembers blob .numerals) "mode") m ∧ e.numerals.mode = (mode.getD m).name
  glyphs_eq : ∃ g, Gives (fun v (g : Numeral.Glyphs) => v = .string g.name.toList) .modern
    (member? (partMembers blob .numerals) "char_mode") g ∧ e.numerals.glyphs = (glyphs.getD g).name

namespace Arguments

/-! ### From the arguments to the profile -/

/-- Toggles that are switched off by name are off, and all others are as they were. -/
theorem disableAll_names (p : Profile) (disabled : List Toggle) :
  disableAll p (disabled.map fun t => some t.name.toList) =
    .ok { p with toggles := fun t => if t ∈ disabled then some false else p.toggles t }
  := by
  induction disabled generalizing p with
  | nil => rfl
  | cons t disabled ih =>
      rw [List.map_cons, disableAll, String.ofList_toList, Toggle.ofName?_name]
      apply (ih (p.disable t)).trans
      congr 2
      funext u
      by_cases hu : u = t
      · subst hu
        simp [Profile.disable]
      · simp [Profile.disable, hu]

/-- The profile of the arguments with all that is said on the command line. -/
def overridden (a : Arguments) (disabled : List Toggle) (p : Profile) : Profile :=
  a.withNumerals
    { p with toggles := fun t => if t ∈ disabled then some false else p.toggles t }

variable {a : Arguments} {text : Text} {p : Profile} {disabled : List Toggle}

/-- The engine that arguments ask for is made of their profile, if it can be read. -/
theorem engineBy?_eq (hprofile : a.profile = some text) (hread : Profile.readBy V text = .ok p)
    (hdisabled : a.disabled = disabled.map fun t => some t.name.toList) :
  a.engineBy? V = .ok (.make (a.overridden disabled p).settings (a.overridden disabled p).tables
    (a.overridden disabled p).numerals)
  := by
  have hengine := Profile.engine?_eq (a.overridden disabled p)
  rw [overridden] at hengine ⊢
  simp only [engineBy?, hprofile, hread, hdisabled, disableAll_names, Except.mapError, bind,
    Except.bind, hengine]

/-! ### Precedence -/

/-- The engine is configured by what is said on the command line and by the profile that is
accepted. -/
theorem isConfigured (hV : V.IsLawful) {blob : Members} (hblob : (Value.object blob).WellFormed)
    (h : V.Accepts blob p) (a : Arguments) (disabled : List Toggle) :
  let q := a.overridden disabled p
  IsConfigured V blob disabled a.mode a.glyphs q.tables.replaceMap
    (.make q.settings q.tables q.numerals)
  := by
  intro q
  have hmap v (m : ReplaceMap) (hv : member? (partMembers blob .tables) "replace_map" = some v) :
      V.replaceMap? v = some m → v = m.toJson := by
    have hwell := (Profile.wellFormed_partMembers hblob .tables).of_mem (Profile.mem_of_member? hv)
    apply (hV.replaceMap?_eq_some_iff v hwell m).mp
  constructor
  · intro t ht
    change (if t ∈ disabled then some false else _).getD true = false
    rw [if_pos ht]
    rfl
  · intro t ht
    change Gives _ _ _ ((if t ∈ disabled then some false else _).getD true)
    rw [if_neg ht]
    apply (h.toggles t).gives true fun v b _ => hV.says
  · apply h.replaceMap.gives .empty hmap
  · rfl
  · intro t
    apply (h.entries t).gives t.standard fun v l _ => (hV.entries?_eq_some_iff v l).mp
  · apply h.newline.gives ['\n'] fun v s _ => (hV.text?_eq_some_iff v s).mp
  · exact ⟨_, h.mode.gives hV.mode?_null fun v m => (hV.mode?_eq_some_iff v m).mp, rfl⟩
  · exact ⟨_, h.glyphs.gives hV.glyphs?_null fun v g => (hV.glyphs?_eq_some_iff v g).mp, rfl⟩

/-- A profile that a lawful validation accepts, toggles that are switched off by name and the two
ways to say how numbers are written give an engine.  What is said on the command line goes before
the profile, and the profile before the default.  The engine is the one that is built from its
settings, its tables with the replacement table as it was given, and its numeral configuration by
name.  A profile without some of the members that are null gives the same engine.

The profile is any JSON text whose strings are characters, without half of a pair alone. -/
theorem isConfigured_of_profile (V : Validation) (hV : V.IsLawful) (a : Arguments) (text : Text)
    (value : Value Json.CodePoint) (blob : Members) (p : Profile) (disabled : List Toggle)
    (hprofile : a.profile = some text) (hjson : Json.readCodePoints text = .ok value)
    (hcharacters : value.characters? = some (.object blob)) (haccepted : V.validate blob = .ok p)
    (hdisabled : a.disabled = disabled.map fun t => some t.name.toList) :
  ∃ map e, a.engineBy? V = .ok e ∧ IsConfigured V blob disabled a.mode a.glyphs map e ∧
    Engine.build e.settings.named { e.tables with replaceMap := map }.named e.numerals = .ok e ∧
    ∀ drops text', Json.read text' = .ok (.object (withoutNulls drops blob)) →
      { a with profile := some text' }.engineBy? V = .ok e
  := by
  have hwell := (Json.wellFormed_of_readCodePoints hjson).of_characters? hcharacters
  have haccepts := (hV.validate_eq_ok_iff blob hwell p).mp haccepted
  have hread := Profile.readBy_eq_ok (Json.read_eq_ok_iff.mpr ⟨value, hjson, hcharacters⟩) haccepted
  refine ⟨_, _, engineBy?_eq hprofile hread hdisabled, isConfigured hV hwell haccepts a disabled,
    ?_, ?_⟩
  · apply Engine.build_named
  · intro drops text' htext'
    have hwell' := Json.wellFormed_of_read htext'
    have haccepted' := (hV.validate_eq_ok_iff _ hwell' p).mpr (haccepts.withoutNulls hV hwell drops)
    exact engineBy?_eq rfl (Profile.readBy_eq_ok htext' haccepted') hdisabled

/-- A profile with a toggle that is null, and a toggle that is switched off twice. -/
theorem isConfigured_of_profile_null :
  let text :=
    "\x7b\"options\": \x7b\"unify_double_dash\": 0, \"convert_half_exclam\": null\x7d\x7d".toList
  let without := "\x7b\"options\": \x7b\"unify_double_dash\": 0\x7d\x7d".toList
  let blob : Members := [("options".toList, .object
    [("unify_double_dash".toList, .number (.integer 0)), ("convert_half_exclam".toList, .null)])]
  let disabled := [Toggle.arabicNumerals, .arabicNumerals]
  let a : Arguments := ⟨none, .convert, ['-'], some text, disabled.map fun t => some t.name.toList,
    none, some .retro, none, false⟩
  Json.read text = .ok (.object blob) ∧ ∃ map e, a.engine? = .ok e ∧
    IsConfigured Profile.validation blob disabled none (some .retro) map e ∧
    Engine.build e.settings.named { e.tables with replaceMap := map }.named e.numerals = .ok e ∧
    { a with profile := some without }.engine? = .ok e
  := by
  have htext : Json.read
      "\x7b\"options\": \x7b\"unify_double_dash\": 0, \"convert_half_exclam\": null\x7d\x7d".toList =
        .ok (.object [("options".toList, .object
          [("unify_double_dash".toList, .number (.integer 0)),
            ("convert_half_exclam".toList, .null)])]) := by
    cbv
  have hwithout : Json.read "\x7b\"options\": \x7b\"unify_double_dash\": 0\x7d\x7d".toList =
      .ok (.object (withoutNulls (fun _ _ => true) [("options".toList, .object
        [("unify_double_dash".toList, .number (.integer 0)),
          ("convert_half_exclam".toList, .null)])])) := by
    cbv
  intro text without blob disabled a
  obtain ⟨value, hjson, hcharacters⟩ := Json.read_eq_ok_iff.mp htext
  have haccepted : Profile.validation.validate blob = .ok (.ofMembers blob) :=
    Profile.validate_eq_ok_iff.mpr ⟨by decide, rfl⟩
  obtain ⟨map, e, hengine, hconfigured, hbuild, hnulls⟩ :=
    isConfigured_of_profile Profile.validation Profile.isLawful_validation a text value blob _
      disabled rfl hjson hcharacters haccepted rfl
  exact ⟨htext, map, e, hengine, hconfigured, hbuild, hnulls _ without hwithout⟩

end Arguments

end JapaneseProse.CommandLine
