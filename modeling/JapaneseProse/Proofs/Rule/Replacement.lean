import JapaneseProse.Proofs.Text.Pieces
import JapaneseProse.Rule.Replacement

/-!
# Replacement of texts

What was not in the line before a replacement comes from the table (`mem_of_mem_foldl`).

A table whose keys are single characters (`ByCharacter`) rewrites a line character by character
(`replaceAll_eq_flatMap`).

* `not_mem_foldl`: a key that occurs in no replacement is not left in the line.
* `foldl_of_not_mem`: a line in which no key occurs stays.
-/

namespace JapaneseProse.Replacement

variable {entries : List (Text × Text)} {k c : Char} {v line : Text}

theorem mem_of_mem_replaceAll {key : Text} (hc : c ∈ replaceAll key v line) :
  c ∈ line ∨ c ∈ v
  := by
  rw [replaceAll] at hc
  induction line using joinPieces_induction (fun d s =>
      if key.isPrefixOf (d :: s) then some (key.length - 1, v) else none) with
  | nil => exact absurd hc List.not_mem_nil
  | kept d s _ ih =>
      rcases List.mem_cons.mp hc with rfl | hc
      · exact .inl List.mem_cons_self
      · apply (ih hc).imp_left (List.mem_cons_of_mem d)
  | taken d s n t h ih =>
      split at h
      · obtain ⟨rfl, rfl⟩ := Prod.mk.inj (Option.some.inj h)
        rcases List.mem_append.mp hc with hc | hc
        · exact .inr hc
        · apply (ih hc).imp_left fun hc => List.mem_cons_of_mem d (List.mem_of_mem_drop hc)
      · cases h

theorem mem_of_mem_applyEntry {e : Text × Text} (hc : c ∈ applyEntry line e) :
  c ∈ line ∨ c ∈ e.2
  := by
  rw [applyEntry] at hc
  split at hc
  · exact .inl hc
  · apply mem_of_mem_replaceAll hc

/-! ### Keys that are single characters -/

/-- Every key is a single character. -/
def ByCharacter (entries : List (Text × Text)) : Prop :=
  ∀ e ∈ entries, ∃ k, e.1 = [k]

theorem isPrefixOf_singleton (k c : Char) (s : Text) :
  [k].isPrefixOf (c :: s) = (k == c)
  := by
  rw [List.isPrefixOf_cons_cons, List.isPrefixOf_nil_left, Bool.and_true]

/-- A single character is replaced at each of its places. -/
theorem replaceAll_eq_flatMap (k : Char) (v line : Text) :
  replaceAll [k] v line = line.flatMap fun c => if c = k then v else [c]
  := by
  rw [replaceAll]
  simp only [isPrefixOf_singleton]
  induction line with
  | nil => rfl
  | cons c line ih =>
      rw [List.flatMap_cons, ← ih]
      by_cases hc : c = k
      · rw [if_pos hc]
        apply joinPieces_cons_of_some (n := 0)
        rw [if_pos (beq_iff_eq.mpr hc.symm)]
        rfl
      · rw [if_neg hc]
        apply joinPieces_cons_of_none
        rw [if_neg fun h => hc (beq_iff_eq.mp h).symm]

theorem mem_replaceAll_iff :
  c ∈ replaceAll [k] v line ↔ (c ∈ line ∧ c ≠ k) ∨ (k ∈ line ∧ c ∈ v)
  := by
  rw [replaceAll_eq_flatMap, List.mem_flatMap]
  constructor
  · rintro ⟨d, hd, hc⟩
    split at hc
    · rename_i hdk
      subst hdk
      exact .inr ⟨hd, hc⟩
    · rename_i hdk
      obtain rfl := List.mem_singleton.mp hc
      exact .inl ⟨hd, hdk⟩
  · rintro (⟨hc, hck⟩ | ⟨hk, hc⟩)
    · exact ⟨c, hc, by simp [hck]⟩
    · exact ⟨k, hk, by simpa using hc⟩

theorem replaceAll_of_not_mem (h : k ∉ line) :
  replaceAll [k] v line = line
  := by
  rw [replaceAll_eq_flatMap]
  induction line with
  | nil => rfl
  | cons c line ih =>
      obtain ⟨hc, hline⟩ := not_or.mp (mt List.mem_cons.mpr h)
      rw [List.flatMap_cons, ih hline, if_neg fun h => hc h.symm]
      rfl

/-- Two characters can be replaced in either order if neither replacement writes the other
character. -/
theorem replaceAll_comm {k' : Char} {v' : Text} (hne : k ≠ k') (hk : k ∉ v') (hk' : k' ∉ v)
    (line : Text) :
  replaceAll [k'] v' (replaceAll [k] v line) = replaceAll [k] v (replaceAll [k'] v' line)
  := by
  have hvalue := replaceAll_of_not_mem (v := v') hk'
  have hvalue' := replaceAll_of_not_mem (v := v) hk
  simp only [replaceAll_eq_flatMap, List.flatMap_assoc] at hvalue hvalue' ⊢
  apply List.flatMap_congr
  intro c _
  by_cases hc : c = k
  · have hc' : c ≠ k' := hc ▸ hne
    rw [if_pos hc, if_neg hc', List.flatMap_singleton, if_pos hc, hvalue]
  · by_cases hc' : c = k'
    · rw [if_neg hc, if_pos hc', List.flatMap_singleton, if_pos hc', hvalue']
    · rw [if_neg hc, if_neg hc', List.flatMap_singleton, List.flatMap_singleton, if_neg hc,
        if_neg hc']

theorem applyEntry_singleton (line : Text) (k : Char) (v : Text) :
  applyEntry line ([k], v) = replaceAll [k] v line
  := if_neg (List.cons_ne_nil k [])

/-! ### All entries, one after another -/

/-- What was not in the line before comes from a replacement. -/
theorem mem_of_mem_foldl (hc : c ∈ entries.foldl applyEntry line) :
  c ∈ line ∨ ∃ e ∈ entries, c ∈ e.2
  := by
  induction entries generalizing line with
  | nil => exact .inl hc
  | cons e entries ih =>
      rw [List.foldl_cons] at hc
      rcases ih hc with hc | ⟨f, hf, hcf⟩
      · rcases mem_of_mem_applyEntry hc with hc | hc
        · exact .inl hc
        · exact .inr ⟨e, List.mem_cons_self, hc⟩
      · exact .inr ⟨f, List.mem_cons_of_mem _ hf, hcf⟩

/-- A key that occurs in no replacement is not left. -/
theorem not_mem_foldl (hkeys : ByCharacter entries) {e : Text × Text} (he : e ∈ entries)
    (hk : e.1 = [k]) (hfree : ∀ f ∈ entries, k ∉ f.2) :
  k ∉ entries.foldl applyEntry line
  := by
  induction entries generalizing line with
  | nil => exact absurd he List.not_mem_nil
  | cons e' entries ih =>
      obtain ⟨hfirst, hlater⟩ := List.forall_mem_cons.mp hfree
      obtain ⟨-, hrest⟩ := List.forall_mem_cons.mp hkeys
      rw [List.foldl_cons]
      rcases List.mem_cons.mp he with rfl | he
      · -- The entry itself takes the key away, and no later entry brings it back.
        obtain ⟨_, v⟩ := e
        obtain rfl := hk
        intro hmem
        rw [applyEntry_singleton] at hmem
        rcases mem_of_mem_foldl hmem with hline | ⟨f, hf, hkf⟩
        · rcases mem_replaceAll_iff.mp hline with ⟨-, hne⟩ | ⟨-, hkv⟩
          · apply hne rfl
          · apply hfirst hkv
        · apply hlater f hf hkf
      · apply ih hrest he hlater

/-- A line in which no key occurs stays. -/
theorem foldl_of_not_mem (hfree : ∀ e ∈ entries, ∃ k, e.1 = [k] ∧ k ∉ line) :
  entries.foldl applyEntry line = line
  := by
  induction entries with
  | nil => rfl
  | cons e entries ih =>
      obtain ⟨⟨k, hk, hline⟩, hrest⟩ := List.forall_mem_cons.mp hfree
      obtain ⟨_, v⟩ := e
      obtain rfl := hk
      rw [List.foldl_cons, applyEntry_singleton, replaceAll_of_not_mem hline, ih hrest]

end JapaneseProse.Replacement
