import JapaneseProse.Json.Reader

/-!
# Names in JSON texts

A value is well formed if no object in it has two members of one name.  Every value that is read
from a JSON text is (`wellFormed_of_read`), also if names are repeated in the text.

* `wellFormed_of_readCodePoints`: members are put together by name, code point by code point.
* `Value.WellFormed.of_characters?`: no two names become one when their code points are taken for
  characters.
-/

namespace JapaneseProse.Json

variable {χ : Type}

/-- No object in the value has two members of one name. -/
inductive Value.WellFormed : Value χ → Prop where
  | null : WellFormed .null
  | bool (b : Bool) : WellFormed (.bool b)
  | number (n : Number) : WellFormed (.number n)
  | string (s : List χ) : WellFormed (.string s)
  | array {items : List (Value χ)} (h : ∀ v ∈ items, WellFormed v) : WellFormed (.array items)
  | object {members : Members χ} (hnodup : (members.map Prod.fst).Nodup)
      (h : ∀ m ∈ members, WellFormed m.2) : WellFormed (.object members)

theorem Value.WellFormed.nodup {members : Members χ}
    (h : (Value.object members).WellFormed) :
  (members.map Prod.fst).Nodup
  := by
  cases h with
  | object hnodup _ => exact hnodup

theorem Value.WellFormed.of_mem {members : Members χ} (h : (Value.object members).WellFormed)
    {m : List χ × Value χ} (hm : m ∈ members) :
  m.2.WellFormed
  := by
  cases h with
  | object _ hmembers => exact hmembers m hm

/-! ### Members put together -/

section

variable [DecidableEq χ]

theorem Members.map_fst_put (members : Members χ) (name : List χ) (value : Value χ) :
  (members.put name value).map Prod.fst =
    if name ∈ members.map Prod.fst then members.map Prod.fst
    else members.map Prod.fst ++ [name]
  := by
  have hany : members.any (·.1 == name) = true ↔ name ∈ members.map Prod.fst := by
    simp only [List.any_eq_true, beq_iff_eq, List.mem_map]
  by_cases h : name ∈ members.map Prod.fst
  · rw [put, if_pos (hany.mpr h), if_pos h, List.map_map]
    apply List.map_congr_left
    intro m _
    by_cases hm : m.1 = name <;> simp [hm]
  · rw [put, if_neg (mt hany.mp h), if_neg h, List.map_append]
    rfl

theorem Members.of_mem_put {members : Members χ} {name : List χ} {value : Value χ}
    {m : List χ × Value χ} (hm : m ∈ members.put name value) :
  m ∈ members ∨ m = (name, value)
  := by
  rw [put] at hm
  split at hm
  · obtain ⟨m', hm', rfl⟩ := List.mem_map.mp hm
    split
    · exact .inr rfl
    · exact .inl hm'
  · simpa using hm

/-- However often names repeat, the object has each of them once. -/
theorem Members.nodup_ofList (l : List (List χ × Value χ)) :
  ((ofList l).map Prod.fst).Nodup
  := by
  apply List.foldlRecOn (motive := fun members : Members χ => (members.map Prod.fst).Nodup) l
  · exact List.nodup_nil
  intro members h m _
  rw [map_fst_put]
  split
  · exact h
  · rename_i hm
    apply List.nodup_append.mpr ⟨h, by simp, _⟩
    rintro a ha b hb rfl
    rw [List.mem_singleton.mp hb] at ha
    exact hm ha

theorem Members.mem_of_mem_ofList {l : List (List χ × Value χ)} {m : List χ × Value χ}
    (hm : m ∈ ofList l) :
  m ∈ l
  := by
  revert m
  apply List.foldlRecOn (motive := fun members : Members χ => ∀ m ∈ members, m ∈ l) l
  · intro m hm
    exact absurd hm List.not_mem_nil
  · intro members h a ha m hm
    rcases of_mem_put hm with hm | rfl
    · apply h m hm
    · exact ha

end

/-! ### Values that are read -/

theorem wellFormed_of_readScalar {c c' : Cursor} {v : Value CodePoint}
    (h : readScalar c = .ok (v, c')) :
  v.WellFormed
  := by
  rw [readScalar] at h
  split at h
  · rename_i word value hword
    cases h
    have hmem := List.mem_of_find?_eq_some hword
    simp only [words, List.mem_cons, List.not_mem_nil, or_false, Prod.mk.injEq] at hmem
    rcases hmem with ⟨-, rfl⟩ | ⟨-, rfl⟩ | ⟨-, rfl⟩ | ⟨-, rfl⟩ | ⟨-, rfl⟩ | ⟨-, rfl⟩ <;>
      constructor
  · dsimp only at h
    split at h
    · cases h
      constructor
    · cases h

theorem exists_of_bind_eq_ok {ε α β : Type} {x : Except ε α} {f : α → Except ε β} {b : β}
    (h : (x >>= f) = .ok b) :
  ∃ a, x = .ok a ∧ f a = .ok b
  := by
  cases x with
  | error e => cases h
  | ok a => exact ⟨a, rfl, h⟩

section

variable {fuel : Nat} {c next : Cursor}
variable (hvalue : ∀ c v next, readValue fuel c = .ok (v, next) → v.WellFormed)
variable (hitems : ∀ c vs next, readItems fuel c = .ok (vs, next) → ∀ v ∈ vs, v.WellFormed)
variable (hmembers : ∀ c ms next, readMembers fuel c = .ok (ms, next) → ∀ m ∈ ms, m.2.WellFormed)

include hitems hmembers in
theorem wellFormed_of_readValue_succ {v : Value CodePoint}
    (h : readValue (fuel + 1) c = .ok (v, next)) :
  v.WellFormed
  := by
  rw [readValue] at h
  split at h
  · obtain ⟨⟨s, behind⟩, -, h⟩ := exists_of_bind_eq_ok h
    cases h
    exact .string s
  · dsimp only at h
    split at h
    · cases h
      apply Value.WellFormed.array
      intro v hv
      exact absurd hv List.not_mem_nil
    · obtain ⟨⟨items, behind⟩, hread, h⟩ := exists_of_bind_eq_ok h
      cases h
      apply Value.WellFormed.array (hitems _ _ _ hread)
  · dsimp only at h
    split at h
    · cases h
      apply @Value.WellFormed.object _ [] List.nodup_nil
      intro m hm
      exact absurd hm List.not_mem_nil
    · obtain ⟨⟨members, behind⟩, hread, h⟩ := exists_of_bind_eq_ok h
      cases h
      apply Value.WellFormed.object (Members.nodup_ofList members)
      intro m hm
      apply hmembers _ _ _ hread m (Members.mem_of_mem_ofList hm)
  · apply wellFormed_of_readScalar h

include hvalue

include hitems in
theorem wellFormed_of_readItems_succ {vs : List (Value CodePoint)}
    (h : readItems (fuel + 1) c = .ok (vs, next)) :
  ∀ v ∈ vs, v.WellFormed
  := by
  rw [readItems] at h
  obtain ⟨⟨v, behind⟩, hread, h⟩ := exists_of_bind_eq_ok h
  have hv := hvalue _ _ _ hread
  dsimp only at h
  split at h
  · cases h
    simpa using hv
  · obtain ⟨⟨vs, behind⟩, hrest, h⟩ := exists_of_bind_eq_ok h
    cases h
    apply List.forall_mem_cons.mpr ⟨hv, hitems _ _ _ hrest⟩
  · cases h

include hmembers in
theorem wellFormed_of_readMembers_succ {ms : Members CodePoint}
    (h : readMembers (fuel + 1) c = .ok (ms, next)) :
  ∀ m ∈ ms, m.2.WellFormed
  := by
  rw [readMembers] at h
  split at h
  · obtain ⟨⟨name, behind⟩, -, h⟩ := exists_of_bind_eq_ok h
    dsimp only at h
    split at h
    · obtain ⟨⟨v, behind⟩, hread, h⟩ := exists_of_bind_eq_ok h
      have hv := hvalue _ _ _ hread
      dsimp only at h
      split at h
      · cases h
        simpa using hv
      · obtain ⟨⟨members, behind⟩, hrest, h⟩ := exists_of_bind_eq_ok h
        cases h
        intro m hm
        rcases List.mem_cons.mp hm with rfl | hm
        · exact hv
        · apply hmembers _ _ _ hrest m hm
      · cases h
    · cases h
  · cases h

end

/-- Whatever bounds the depth, the values, items and members that are read are well formed. -/
theorem wellFormed_of_reads (fuel : Nat) :
  (∀ c v next, readValue fuel c = .ok (v, next) → v.WellFormed) ∧
    (∀ c vs next, readItems fuel c = .ok (vs, next) → ∀ v ∈ vs, v.WellFormed) ∧
    ∀ c ms next, readMembers fuel c = .ok (ms, next) → ∀ m ∈ ms, m.2.WellFormed
  := by
  induction fuel with
  | zero => and_intros <;> rintro c read next ⟨⟩
  | succ fuel ih =>
      obtain ⟨hvalue, hitems, hmembers⟩ := ih
      and_intros
      · intro c v next
        apply wellFormed_of_readValue_succ hitems hmembers
      · intro c vs next
        apply wellFormed_of_readItems_succ hvalue hitems
      · intro c ms next
        apply wellFormed_of_readMembers_succ hvalue hmembers

theorem wellFormed_of_readCodePoints {text : Text} {v : Value CodePoint}
    (h : readCodePoints text = .ok v) :
  v.WellFormed
  := by
  unfold readCodePoints at h
  split at h
  · cases h
  · obtain ⟨⟨v, c⟩, hread, h⟩ := exists_of_bind_eq_ok h
    dsimp only at h
    split at h
    · cases h
      apply (wellFormed_of_reads _).1 _ _ _ hread
    · cases h

/-! ### Strings of characters -/

theorem mapM_character?_eq_some_iff {s : List CodePoint} {l : Text} :
  s.mapM CodePoint.character? = some l ↔ s = l.map .char
  := by
  induction s generalizing l with
  | nil => cases l <;> simp
  | cons c s ih =>
      rw [List.mapM_cons]
      cases c with
      | half n => cases l <;> simp [CodePoint.character?]
      | char c =>
          change ((s.mapM CodePoint.character?).bind fun s => some (c :: s)) = _ ↔ _
          rw [Option.bind_eq_some_iff]
          simp only [ih]
          constructor
          · rintro ⟨l, rfl, h⟩
            cases h
            rfl
          · intro h
            obtain ⟨d, l, rfl, hd, hl⟩ := List.map_eq_cons_iff.mp h.symm
            cases hd
            exact ⟨l, hl.symm, rfl⟩

namespace Value

theorem exists_of_itemCharacters? {ws : List (Value CodePoint)} {vs : List Value}
    (h : itemCharacters? ws = some vs) :
  ∀ v ∈ vs, ∃ w ∈ ws, w.characters? = some v
  := by
  induction ws generalizing vs with
  | nil =>
      cases h
      exact List.forall_mem_nil _
  | cons w ws ih =>
      obtain ⟨v, hv, h⟩ := Option.bind_eq_some_iff.mp h
      obtain ⟨vs, hvs, h⟩ := Option.bind_eq_some_iff.mp h
      cases h
      rw [List.forall_mem_cons]
      refine ⟨⟨w, List.mem_cons_self, hv⟩, fun v hv => ?_⟩
      obtain ⟨w, hw, hwv⟩ := ih hvs v hv
      exact ⟨w, List.mem_cons_of_mem _ hw, hwv⟩

/-- The members keep their names and their order. -/
theorem of_memberCharacters? {ws : Members CodePoint} {ms : Members}
    (h : memberCharacters? ws = some ms) :
  ws.map Prod.fst = (ms.map Prod.fst).map (List.map .char) ∧
    ∀ m ∈ ms, ∃ w ∈ ws, w.2.characters? = some m.2
  := by
  induction ws generalizing ms with
  | nil =>
      cases h
      exact ⟨rfl, List.forall_mem_nil _⟩
  | cons w ws ih =>
      obtain ⟨name, hname, h⟩ := Option.bind_eq_some_iff.mp h
      obtain ⟨v, hv, h⟩ := Option.bind_eq_some_iff.mp h
      obtain ⟨ms, hms, h⟩ := Option.bind_eq_some_iff.mp h
      cases h
      obtain ⟨hnames, hmembers⟩ := ih hms
      constructor
      · rw [List.map_cons, List.map_cons, List.map_cons, hnames,
          mapM_character?_eq_some_iff.mp hname]
      · rw [List.forall_mem_cons]
        refine ⟨⟨w, List.mem_cons_self, hv⟩, fun m hm => ?_⟩
        obtain ⟨w, hw, hwm⟩ := hmembers m hm
        exact ⟨w, List.mem_cons_of_mem _ hw, hwm⟩

/-- A value stays well formed when its code points are taken for characters. -/
theorem WellFormed.of_characters? {w : Value CodePoint} {v : Value} (hw : w.WellFormed)
    (h : w.characters? = some v) :
  v.WellFormed
  := by
  induction hw generalizing v with
  | null | bool | number =>
      cases h
      constructor
  | string s =>
      obtain ⟨l, -, rfl⟩ := Option.map_eq_some_iff.mp h
      exact .string l
  | array _ ih =>
      obtain ⟨vs, hvs, rfl⟩ := Option.map_eq_some_iff.mp h
      apply WellFormed.array
      intro v hv
      obtain ⟨w, hw, hwv⟩ := exists_of_itemCharacters? hvs v hv
      apply ih w hw hwv
  | object hnodup _ ih =>
      obtain ⟨ms, hms, rfl⟩ := Option.map_eq_some_iff.mp h
      obtain ⟨hnames, hmembers⟩ := of_memberCharacters? hms
      apply WellFormed.object
      · rw [hnames] at hnodup
        apply List.Pairwise.of_map _ _ hnodup
        intro name name' hne heq
        apply hne (congrArg _ heq)
      · intro m hm
        obtain ⟨w, hw, hwm⟩ := hmembers m hm
        apply ih w hw hwm

end Value

/-- A value of characters is read if no string in the text has half of a pair alone. -/
theorem read_eq_ok_iff {text : Text} {v : Value} :
  read text = .ok v ↔ ∃ w, readCodePoints text = .ok w ∧ w.characters? = some v
  := by
  rw [read]
  cases readCodePoints text with
  | error fault => exact iff_of_false (fun h => nomatch h) (fun ⟨_, h, _⟩ => nomatch h)
  | ok w =>
      simp only [bind, Except.bind, Except.ok.injEq, exists_eq_left']
      cases w.characters? with
      | none => exact iff_of_false (fun h => nomatch h) (fun h => nomatch h)
      | some _ =>
          constructor
          · rintro ⟨⟩
            rfl
          · rintro ⟨⟩
            rfl

/-- A value that is read from a JSON text has no object with two members of one name. -/
theorem wellFormed_of_read {text : Text} {v : Value} (h : read text = .ok v) :
  v.WellFormed
  := by
  obtain ⟨w, hw, hv⟩ := read_eq_ok_iff.mp h
  apply (wellFormed_of_readCodePoints hw).of_characters? hv

end JapaneseProse.Json
