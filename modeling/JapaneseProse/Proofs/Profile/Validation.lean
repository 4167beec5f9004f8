import JapaneseProse.Profile.Reader
import JapaneseProse.Proofs.Json.Reader
import JapaneseProse.Report

/-!
# Lawful validations

A validation goes by what is declared of the members of a profile (`Validation.IsLawful`).  Values
of the declared types are taken for what they are, names in their order.  A profile is accepted if
its members are taken one by one: what is missing is left open, and null leaves a toggle or a table
open, too (`Validation.Accepts`).

* `Taken.gives`: a member that is taken gives the value that it stands for, or else the default.
* `Validation.Accepts.withoutNulls`: toggles and tables that are null can be left out.
-/

namespace JapaneseProse.Profile

open Json (Value Members)

variable {V : Validation} {blob members : Members} {name : String} {v : Value} {p : Profile}

/-! ### Members by name -/

theorem member?_cons (m : Text × Value) (members : Members) (name : String) :
  member? (m :: members) name = if name.toList = m.1 then some m.2 else member? members name
  := by
  rw [member?, List.lookup_cons]
  by_cases h : name.toList = m.1
  · rw [if_pos h, beq_iff_eq.mpr h]
  · rw [if_neg h, beq_eq_false_iff_ne.mpr h]
    rfl

theorem member?_eq_none (h : name.toList ∉ members.map Prod.fst) :
  member? members name = none
  := by
  rw [member?, List.lookup_eq_none_iff]
  intro m hm
  apply bne_iff_ne.mpr
  intro hname
  apply h
  rw [hname]
  apply List.mem_map_of_mem hm

theorem mem_of_member? (h : member? members name = some v) :
  (name.toList, v) ∈ members
  := by
  obtain ⟨l, l', rfl, -⟩ := List.lookup_eq_some_iff.mp h
  simp

/-- The parts of a well formed profile are well formed. -/
theorem wellFormed_partMembers (hblob : (Value.object blob).WellFormed) (part : Part) :
  (Value.object (partMembers blob part)).WellFormed
  := by
  have hnil : (.object [] : Value).WellFormed :=
    .object List.nodup_nil fun m hm => absurd hm List.not_mem_nil
  rw [partMembers]
  cases hpart : member? blob part.name with
  | none => exact hnil
  | some v =>
      have hv := hblob.of_mem (mem_of_member? hpart)
      cases v with
      | object members => exact hv
      | null | bool | number | string | array => exact hnil

/-! ### What members are taken for -/

/-- What is made of a member that may be missing or null. -/
inductive Taken {α : Type} (take? : Value → Option α) : Option Value → Option α → Prop where
  | missing : Taken take? none none
  | null : Taken take? (some .null) none
  | given {v : Value} {a : α} (hv : v ≠ .null) (h : take? v = some a) :
      Taken take? (some v) (some a)

/-- What is made of a member that may be missing and then is the default. -/
inductive TakenOr {α : Type} (take? : Value → Option α) (default : α) :
    Option Value → α → Prop where
  | missing : TakenOr take? default none default
  | given {v : Value} {a : α} (h : take? v = some a) : TakenOr take? default (some v) a

/-- What a member gives that may be missing: the value that it stands for, or the default if it is
missing or null. -/
inductive Gives {α : Type} (reads : Value → α → Prop) (default : α) : Option Value → α → Prop where
  | missing : Gives reads default none default
  | null : Gives reads default (some .null) default
  | given {v : Value} {a : α} (hv : v ≠ .null) (h : reads v a) : Gives reads default (some v) a

/-- A member that is taken gives the value that it stands for, or else the default. -/
theorem Taken.gives {α : Type} {take? : Value → Option α} {reads : Value → α → Prop}
    {member : Option Value} {a? : Option α} (h : Taken take? member a?) (default : α)
    (hreads : ∀ v a, member = some v → take? v = some a → reads v a) :
  Gives reads default member (a?.getD default)
  := by
  cases h with
  | missing => exact .missing
  | null => exact .null
  | given hv h => exact .given hv (hreads _ _ rfl h)

/-- A name that is taken is not null. -/
theorem TakenOr.gives {α : Type} {take? : Value → Option α} {reads : Value → α → Prop}
    {member : Option Value} {default a : α} (h : TakenOr take? default member a)
    (hnull : take? .null = none) (hreads : ∀ v a, take? v = some a → reads v a) :
  Gives reads default member a
  := by
  cases h with
  | missing => exact .missing
  | given h =>
      apply Gives.given _ (hreads _ _ h)
      rintro rfl
      rw [hnull] at h
      cases h

/-! ### Profiles that are accepted -/

namespace Validation

/-- The value stands for a truth value: a truth value for itself, and any other value for what it is
taken for. -/
inductive Says (V : Validation) : Value → Bool → Prop where
  | declared (b : Bool) : Says V (.bool b) b
  | taken {v : Value} {b : Bool} (hv : ∀ c, v ≠ .bool c) (h : V.truth? v = some b) : Says V v b

/-- The parts are objects with no other members than the declared ones, and these are taken one by
one for what the profile says. -/
structure Accepts (V : Validation) (blob : Members) (p : Profile) : Prop where
  part : ∀ part : Part, ∀ v, member? blob part.name = some v → v.members?.isSome = true
  declared : ∀ part : Part, ∀ m ∈ partMembers blob part, String.ofList m.1 ∈ part.memberNames
  toggles : ∀ t, Taken V.truth? (member? (partMembers blob .options) t.name) (p.toggles t)
  replaceMap : Taken V.replaceMap? (member? (partMembers blob .tables) "replace_map") p.replaceMap
  entries : ∀ t, Taken V.entries? (member? (partMembers blob .tables) t.name) (p.entries t)
  newline : Taken V.text? (member? (partMembers blob .tables) "newline") p.newline
  mode : TakenOr V.mode? .simple (member? (partMembers blob .numerals) "mode") p.mode
  glyphs : TakenOr V.glyphs? .modern (member? (partMembers blob .numerals) "char_mode") p.glyphs

/-- The validation goes by the declared types.  Truth values are taken for themselves.  Of texts,
lists of texts, objects of texts and names only these are taken, and objects of texts with their
names in order.  A profile is accepted if its members are taken. -/
structure IsLawful (V : Validation) : Prop where
  truth?_bool : ∀ b, V.truth? (.bool b) = some b
  text?_eq_some_iff : ∀ v s, V.text? v = some s ↔ v = .string s
  entries?_eq_some_iff : ∀ v l, V.entries? v = some l ↔ v = .array (l.map .string)
  replaceMap?_eq_some_iff : ∀ v : Value, v.WellFormed → ∀ m : ReplaceMap,
    V.replaceMap? v = some m ↔ v = m.toJson
  mode?_eq_some_iff : ∀ v m, V.mode? v = some m ↔ v = .string m.name.toList
  glyphs?_eq_some_iff : ∀ v g, V.glyphs? v = some g ↔ v = .string g.name.toList
  validate_eq_ok_iff : ∀ blob, (Value.object blob).WellFormed → ∀ p,
    V.validate blob = .ok p ↔ V.Accepts blob p

theorem IsLawful.says (hV : V.IsLawful) {b : Bool} (h : V.truth? v = some b) :
  V.Says v b
  := by
  by_cases hv : ∃ c, v = .bool c
  · obtain ⟨c, rfl⟩ := hv
    obtain rfl := Option.some.inj ((hV.truth?_bool c).symm.trans h)
    exact .declared c
  · exact .taken (fun c hc => hv ⟨c, hc⟩) h

theorem IsLawful.mode?_null (hV : V.IsLawful) :
  V.mode? .null = none
  := by
  apply Option.eq_none_iff_forall_ne_some.mpr
  intro m hm
  cases (hV.mode?_eq_some_iff _ m).mp hm

theorem IsLawful.glyphs?_null (hV : V.IsLawful) :
  V.glyphs? .null = none
  := by
  apply Option.eq_none_iff_forall_ne_some.mpr
  intro g hg
  cases (hV.glyphs?_eq_some_iff _ g).mp hg

end Validation

/-! ### Members that are null -/

/-- Whether a member is left when members with some names are dropped if they are null. -/
def isKept (drops : Text → Bool) (m : Text × Value) : Bool :=
  match m.2 with
  | .null => !drops m.1
  | _ => true

/-- Members without some of those that are null, chosen by name. -/
def dropNulls (drops : Text → Bool) (members : Members) : Members :=
  members.filter (isKept drops)

/-- A member of a profile without some of the members in it that are null. -/
def partWithoutNulls (drops : Text → Bool) : Value → Value
  | .object members => .object (dropNulls drops members)
  | v => v

/-- The members of a profile without some of the members of its parts that are null, chosen by the
name of the part and by name. -/
def withoutNulls (drops : Text → Text → Bool) (blob : Members) : Members :=
  blob.map fun m => (m.1, partWithoutNulls (drops m.1) m.2)

section

variable {drops : Text → Bool}

theorem eq_null_of_not_isKept {m : Text × Value} (h : ¬isKept drops m = true) :
  m.2 = .null
  := by
  rw [isKept] at h
  split at h
  · assumption
  · exact absurd rfl h

/-- A member that is left out was null. -/
theorem member?_dropNulls (drops : Text → Bool) (hnodup : (members.map Prod.fst).Nodup)
    (name : String) :
  member? (dropNulls drops members) name = member? members name ∨
    member? members name = some .null ∧ member? (dropNulls drops members) name = none
  := by
  induction members with
  | nil => exact .inl rfl
  | cons m members ih =>
      obtain ⟨hm, hnodup⟩ := List.nodup_cons.mp hnodup
      rw [dropNulls, member?_cons]
      by_cases hkept : isKept drops m = true
      · rw [List.filter_cons_of_pos hkept, member?_cons]
        split
        · exact .inl rfl
        · apply ih hnodup
      · rw [List.filter_cons_of_neg hkept]
        split
        · rename_i hname
          right
          rw [eq_null_of_not_isKept hkept]
          refine ⟨rfl, ?_⟩
          apply member?_eq_none
          rw [hname]
          intro hmem
          apply hm ((List.filter_sublist.map Prod.fst).subset hmem)
        · apply ih hnodup

end

section

variable (drops : Text → Text → Bool)

theorem member?_withoutNulls (blob : Members) (name : String) :
  member? (withoutNulls drops blob) name =
    (member? blob name).map (partWithoutNulls (drops name.toList))
  := by
  induction blob with
  | nil => rfl
  | cons m blob ih =>
      rw [withoutNulls, List.map_cons, ← withoutNulls, member?_cons, member?_cons]
      by_cases hname : name.toList = m.1
      · rw [if_pos hname, if_pos hname, hname]
        rfl
      · rw [if_neg hname, if_neg hname, ih]

theorem members?_partWithoutNulls (drops : Text → Bool) (v : Value) :
  (partWithoutNulls drops v).members? = v.members?.map (dropNulls drops)
  := by
  cases v <;> rfl

theorem partMembers_withoutNulls (blob : Members) (part : Part) :
  partMembers (withoutNulls drops blob) part =
    dropNulls (drops part.name.toList) (partMembers blob part)
  := by
  rw [partMembers, partMembers, member?_withoutNulls]
  cases member? blob part.name with
  | none => rfl
  | some v =>
      rw [Option.map_some, Option.bind_some, Option.bind_some, members?_partWithoutNulls]
      cases v.members? <;> rfl

end

namespace Validation.Accepts

theorem taken_dropNulls {α : Type} {take? : Value → Option α} {drops : Text → Bool} {a? : Option α}
    (h : Taken take? (member? members name) a?) (hnodup : (members.map Prod.fst).Nodup) :
  Taken take? (member? (dropNulls drops members) name) a?
  := by
  rcases member?_dropNulls drops hnodup name with hsame | ⟨hnull, hnone⟩
  · rw [hsame]
    exact h
  · rw [hnull] at h
    rw [hnone]
    cases h with
    | null => exact .missing
    | given hv _ => exact absurd rfl hv

theorem takenOr_dropNulls {α : Type} {take? : Value → Option α} {drops : Text → Bool}
    {default a : α} (htake : take? .null = none)
    (h : TakenOr take? default (member? members name) a) (hnodup : (members.map Prod.fst).Nodup) :
  TakenOr take? default (member? (dropNulls drops members) name) a
  := by
  rcases member?_dropNulls drops hnodup name with hsame | ⟨hnull, -⟩
  · rw [hsame]
    exact h
  · rw [hnull] at h
    cases h with
    | given h =>
        rw [htake] at h
        cases h

/-- Members of the parts that are null can be left out of a profile that is accepted. -/
theorem withoutNulls (hV : V.IsLawful) (hblob : (Value.object blob).WellFormed)
    (h : V.Accepts blob p) (drops : Text → Text → Bool) :
  V.Accepts (withoutNulls drops blob) p
  := by
  have hnodup (part : Part) := (wellFormed_partMembers hblob part).nodup
  constructor
  · intro part v hv
    rw [member?_withoutNulls, Option.map_eq_some_iff] at hv
    obtain ⟨w, hw, rfl⟩ := hv
    rw [members?_partWithoutNulls, Option.isSome_map]
    apply h.part part w hw
  · intro part m hm
    rw [partMembers_withoutNulls] at hm
    apply h.declared part m (List.mem_filter.mp hm).1
  all_goals simp only [partMembers_withoutNulls]
  · intro t
    apply taken_dropNulls (h.toggles t) (hnodup _)
  · apply taken_dropNulls h.replaceMap (hnodup _)
  · intro t
    apply taken_dropNulls (h.entries t) (hnodup _)
  · apply taken_dropNulls h.newline (hnodup _)
  · apply takenOr_dropNulls hV.mode?_null h.mode (hnodup _)
  · apply takenOr_dropNulls hV.glyphs?_null h.glyphs (hnodup _)

end Validation.Accepts

/-! ### Profiles in texts -/

/-- A text of an object that the validation takes for a profile is read as this profile. -/
theorem readBy_eq_ok {text : Text} (hread : Json.read text = .ok (.object blob))
    (h : V.validate blob = .ok p) :
  readBy V text = .ok p
  := by
  rw [readBy, hread]
  change (V.validate blob).mapError _ = _
  rw [h]
  rfl

end JapaneseProse.Profile
