import JapaneseProse.Proofs.ReplaceMap
import JapaneseProse.Proofs.Rule.Replacement
import Mathlib.Data.List.Infix

/-!
# All replacements at once

The entries of a table are applied one after another, and each sees what the earlier ones have
written.  If every key is a single character, or empty, and no replacement contains a key, this makes
no difference (`IsFlat`): each character of the line gives way to its replacement, or stays
(`ReplaceMap.replacement`).

* `foldl_eq_flatMap`: the entries applied one after another replace the characters one by one.
* `fix_eq_flatMap`: so what becomes of a line is told by its characters.
* `replaced_at_once`: the order of the entries does not count, no key is left, a second pass changes
  nothing, and the parts of a line can be treated on their own.
-/

namespace JapaneseProse

/-- What stands for a character after the replacement. -/
def ReplaceMap.replacement (m : ReplaceMap) (c : Char) : Text := (m.get? [c]).getD [c]

namespace Replacement

variable {entries : List (Text × Text)} {map other : ReplaceMap} {k : Char} {line s : Text}

/-- Every key is a single character or empty, and no replacement contains a key that is not empty. -/
structure IsFlat (entries : List (Text × Text)) : Prop where
  length_le_one : ∀ e ∈ entries, e.1.length ≤ 1
  not_infix : ∀ e ∈ entries, e.1 ≠ [] → ∀ f ∈ entries, ¬e.1 <:+: f.2

namespace IsFlat

theorem of_cons {e : Text × Text} (h : IsFlat (e :: entries)) :
  IsFlat entries
  := by
  constructor
  · intro f hf
    apply h.length_le_one f (List.mem_cons_of_mem e hf)
  · intro f hf hne g hg
    apply h.not_infix f (List.mem_cons_of_mem e hf) hne g (List.mem_cons_of_mem e hg)

theorem exists_key (h : IsFlat entries) {e : Text × Text} (he : e ∈ entries) (hne : e.1 ≠ []) :
  ∃ k, e.1 = [k]
  := by
  apply List.length_eq_one_iff.mp
  apply Nat.le_antisymm (h.length_le_one e he) (List.length_pos_iff.mpr hne)

theorem of_perm {entries' : List (Text × Text)} (h : IsFlat entries)
    (hperm : entries'.Perm entries) :
  IsFlat entries'
  := by
  constructor
  · intro e he
    apply h.length_le_one e (hperm.mem_iff.mp he)
  · intro e he hne f hf
    apply h.not_infix e (hperm.mem_iff.mp he) hne f (hperm.mem_iff.mp hf)

/-- The characters of a replacement are not replaced. -/
theorem lookup_eq_none (h : IsFlat entries) {e : Text × Text} (he : e ∈ entries) (hk : k ∈ e.2) :
  entries.lookup [k] = none
  := by
  apply List.lookup_eq_none_iff.mpr
  intro f hf
  apply bne_iff_ne.mpr
  intro hkey
  apply h.not_infix f hf (hkey ▸ List.cons_ne_nil k []) e he
  rw [← hkey]
  apply (List.singleton_infix_iff k e.2).mpr hk

end IsFlat

/-- A text of whose characters none is replaced stays. -/
theorem flatMap_of_lookup_eq_none (h : ∀ c ∈ s, entries.lookup [c] = none) :
  (s.flatMap fun c => (entries.lookup [c]).getD [c]) = s
  := by
  rw [List.flatMap_congr (g := fun c => [c]) fun c hc => by rw [h c hc]; rfl]
  apply List.flatMap_singleton'

/-- The entries applied one after another replace the characters one by one. -/
theorem foldl_eq_flatMap (h : IsFlat entries) (line : Text) :
  entries.foldl applyEntry line = line.flatMap fun c => (entries.lookup [c]).getD [c]
  := by
  induction entries generalizing line with
  | nil => exact (List.flatMap_singleton' line).symm
  | cons e entries ih =>
      obtain ⟨key, v⟩ := e
      rw [List.foldl_cons, ih h.of_cons]
      by_cases hkey : key = []
      · subst hkey
        rw [applyEntry, if_pos rfl]
        rfl
      · obtain ⟨k, rfl⟩ : ∃ k, key = [k] := h.exists_key List.mem_cons_self hkey
        rw [applyEntry_singleton, replaceAll_eq_flatMap, List.flatMap_assoc]
        apply List.flatMap_congr
        intro c _
        by_cases hc : c = k
        · -- What is written for `c` is not replaced by a later entry.
          rw [if_pos hc, hc, List.lookup_cons_self, flatMap_of_lookup_eq_none]
          · rfl
          · intro d hd
            have hnone := h.lookup_eq_none List.mem_cons_self hd
            rw [List.lookup_eq_none_iff, List.forall_mem_cons] at hnone
            exact List.lookup_eq_none_iff.mpr hnone.2
        · have hne : ([c] == [k]) = false := by simpa using hc
          rw [if_neg hc, List.flatMap_singleton, List.lookup_cons, hne]

/-- What becomes of a line is told by its characters. -/
theorem fix_eq_flatMap (h : IsFlat map.entries) (line : Text) :
  fix map line = line.flatMap map.replacement
  := foldl_eq_flatMap h line

/-! ### What follows -/

theorem replacement_of_perm (h : other.entries.Perm map.entries) :
  other.replacement = map.replacement
  := by
  funext c
  have hget : other.get? [c] = map.get? [c] := by
    apply Option.ext
    intro value
    rw [ReplaceMap.get?_eq_some_iff, ReplaceMap.get?_eq_some_iff, h.mem_iff]
  rw [ReplaceMap.replacement, ReplaceMap.replacement, hget]

/-- No character that is left is replaced. -/
theorem get?_eq_none_of_mem_fix (h : IsFlat map.entries) {c : Char} (hc : c ∈ fix map line) :
  map.get? [c] = none
  := by
  rw [fix_eq_flatMap h, List.mem_flatMap] at hc
  obtain ⟨d, -, hc⟩ := hc
  rw [ReplaceMap.replacement] at hc
  cases hd : map.get? [d] with
  | none =>
      rw [hd] at hc
      obtain rfl := List.mem_singleton.mp hc
      exact hd
  | some value =>
      rw [hd] at hc
      apply h.lookup_eq_none (ReplaceMap.get?_eq_some_iff.mp hd) hc

/-- If every key is a single character or empty, and no replacement contains a key that is not empty,
every character of a line gives way to its replacement or stays.  So the order of the entries does
not count, the line that comes out contains no key, a second pass changes nothing, and lines can be
joined before or afterwards. -/
theorem replaced_at_once (map : ReplaceMap) (h : IsFlat map.entries) :
  (∀ line, fix map line = line.flatMap map.replacement) ∧
    (∀ other : ReplaceMap, other.entries.Perm map.entries → ∀ line,
      fix other line = fix map line) ∧
    (∀ line, ∀ e ∈ map.entries, e.1 ≠ [] → ¬e.1 <:+: fix map line) ∧
    (∀ line, fix map (fix map line) = fix map line) ∧
    ∀ s t, fix map (s ++ t) = fix map s ++ fix map t
  := by
  refine ⟨fix_eq_flatMap h, fun other hperm line => ?_, fun line e he hne hinfix => ?_,
    fun line => ?_, fun s t => ?_⟩
  · rw [fix_eq_flatMap h, fix_eq_flatMap (h.of_perm hperm), replacement_of_perm hperm]
  · obtain ⟨k, hk⟩ := h.exists_key he hne
    rw [hk, List.singleton_infix_iff] at hinfix
    apply ReplaceMap.get?_eq_none_iff.mp (get?_eq_none_of_mem_fix h hinfix)
    rw [← hk]
    apply List.mem_map_of_mem he
  · rw [fix_eq_flatMap h (fix map line)]
    apply flatMap_of_lookup_eq_none
    intro c hc
    apply get?_eq_none_of_mem_fix h hc
  · rw [fix_eq_flatMap h, fix_eq_flatMap h, fix_eq_flatMap h, List.flatMap_append]

/-- Two characters are replaced by texts with a character in common, and one key is empty. -/
theorem replaced_at_once_reordered :
  let map : ReplaceMap :=
    ⟨[(['!'], ['！']), ([], ['無']), (['１'], ['1']), (['あ'], ['い', '1'])], by decide⟩
  let other : ReplaceMap :=
    ⟨[(['あ'], ['い', '1']), (['１'], ['1']), ([], ['無']), (['!'], ['！'])], by decide⟩
  let line : Text := ['あ', '１', '!', 'う']
  IsFlat map.entries ∧ other.entries.Perm map.entries ∧
    fix map line = ['い', '1', '1', '！', 'う'] ∧ fix other line = fix map line ∧
    fix map (fix map line) = fix map line
  := by
  intro map other line
  have hflat : IsFlat map.entries := ⟨by decide, by decide⟩
  have hperm : other.entries.Perm map.entries := by decide
  obtain ⟨hfix, horder, -, hpass, -⟩ := replaced_at_once map hflat
  exact ⟨hflat, hperm, (hfix line).trans (by decide), horder other hperm line, hpass line⟩

end Replacement

end JapaneseProse
