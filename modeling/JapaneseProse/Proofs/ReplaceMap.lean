import JapaneseProse.Tables
import Mathlib.Data.List.Basic
import Mathlib.Data.List.Nodup

/-!
# The entries of replacement tables

The entries after an operation on a table are the ones that were written and those of the old ones
that were not overwritten or erased (`mem_put_iff`, `mem_erase_iff`, `mem_sync_iff`).  A table gives
for a key what its entries say (`get?_eq_some_iff`, `get?_eq_none_iff`).

In particular, a table whose entries are all implied by toggles stays one when it is kept in step
with a toggle (`IsImplied.sync`).
-/

namespace JapaneseProse

/-! ### What toggles stand for -/

/-- The texts that toggles replace. -/
def impliedKeys : List Text := Toggle.all.flatMap fun t => t.impliedEntries.map Prod.fst

theorem mem_impliedKeys_iff {key : Text} :
  key ∈ impliedKeys ↔ ∃ t : Toggle, ∃ entry ∈ t.impliedEntries, entry.1 = key
  := by
  constructor
  · intro h
    obtain ⟨t, -, ht⟩ := List.mem_flatMap.mp h
    exact ⟨t, List.mem_map.mp ht⟩
  · rintro ⟨t, entry, hentry, rfl⟩
    apply List.mem_flatMap.mpr ⟨t, t.mem_all, List.mem_map_of_mem hentry⟩

namespace Toggle

variable {t u : Toggle} {entry : Text × Text}

theorem key_mem_impliedKeys (h : entry ∈ t.impliedEntries) :
  entry.1 ∈ impliedKeys
  := mem_impliedKeys_iff.mpr ⟨t, entry, h, rfl⟩

/-- Toggles replace single characters. -/
theorem exists_key (h : entry ∈ t.impliedEntries) :
  ∃ k, entry.1 = [k]
  := by
  have hsingle : ∀ t ∈ all, ∀ entry ∈ t.impliedEntries, entry.1.length = 1 := by decide
  apply List.length_eq_one_iff.mp (hsingle t t.mem_all entry h)

/-- Toggles write nothing that toggles replace. -/
theorem not_mem_impliedKeys_of_mem {c : Char} (h : entry ∈ t.impliedEntries) (hc : c ∈ entry.2) :
  [c] ∉ impliedKeys
  := by
  have hvalues : ∀ t ∈ all, ∀ entry ∈ t.impliedEntries,
      (entry.2.all fun d => [d] ∉ impliedKeys) = true := by
    decide
  apply of_decide_eq_true (List.all_eq_true.mp (hvalues t t.mem_all entry h) c hc)

/-- A toggle replaces each of its texts in one way. -/
theorem nodup_impliedEntries (t : Toggle) :
  (t.impliedEntries.map Prod.fst).Nodup
  := by
  cases t <;> decide

/-- No two toggles replace the same text. -/
theorem key_not_mem_of_ne (h : entry ∈ t.impliedEntries) (hne : t ≠ u) :
  entry.1 ∉ u.impliedEntries.map Prod.fst
  := by
  have hall : ∀ t ∈ all, ∀ u ∈ all, t ≠ u → ∀ entry ∈ t.impliedEntries,
      entry.1 ∉ u.impliedEntries.map Prod.fst := by
    decide
  apply hall t t.mem_all u u.mem_all hne entry h

end Toggle

namespace ReplaceMap

variable {m : ReplaceMap} {key value : Text} {entry : Text × Text}

/-! ### Entries after an operation -/

theorem entries_put_of_mem (h : key ∈ m.keys) (value : Text) :
  (m.put key value).entries = overwrite key value m.entries
  := by
  rw [put, dif_pos h]

theorem entries_put_of_not_mem (h : key ∉ m.keys) (value : Text) :
  (m.put key value).entries = m.entries ++ [(key, value)]
  := by
  rw [put, dif_neg h]

theorem mem_put_iff :
  entry ∈ (m.put key value).entries ↔
    entry = (key, value) ∨ (entry ∈ m.entries ∧ entry.1 ≠ key)
  := by
  by_cases hkey : key ∈ m.keys
  · rw [entries_put_of_mem hkey]
    constructor
    · intro h
      obtain ⟨e, he, hentry⟩ := List.mem_map.mp h
      split at hentry
      · exact .inl hentry.symm
      · rename_i hne
        subst hentry
        exact .inr ⟨he, hne⟩
    · intro h
      apply List.mem_map.mpr
      rcases h with rfl | ⟨h, hne⟩
      · obtain ⟨e, he, hk⟩ := List.mem_map.mp hkey
        exact ⟨e, he, if_pos hk⟩
      · exact ⟨entry, h, if_neg hne⟩
  · rw [entries_put_of_not_mem hkey, List.mem_append, List.mem_singleton, or_comm]
    apply or_congr_right
    constructor
    · intro h
      use h
      rintro rfl
      apply hkey (List.mem_map_of_mem h)
    · exact And.left

theorem mem_erase_iff :
  entry ∈ (m.erase key).entries ↔ entry ∈ m.entries ∧ entry.1 ≠ key
  := by
  rw [erase, List.mem_filter, decide_eq_true_eq]

theorem mem_putAll_iff {l : List (Text × Text)} (h : (l.map Prod.fst).Nodup) :
  entry ∈ (m.putAll l).entries ↔
    entry ∈ l ∨ (entry ∈ m.entries ∧ entry.1 ∉ l.map Prod.fst)
  := by
  induction l generalizing m with
  | nil => simp [putAll]
  | cons e l ih =>
      obtain ⟨hkey, hnodup⟩ := List.nodup_cons.mp h
      have hfirst : entry = e → entry.1 ∉ l.map Prod.fst := by
        rintro rfl
        exact hkey
      change entry ∈ ((m.put e.1 e.2).putAll l).entries ↔ _
      rw [ih hnodup, mem_put_iff, List.mem_cons, List.map_cons, List.mem_cons]
      tauto

theorem mem_eraseAll_iff {keys : List Text} :
  entry ∈ (m.eraseAll keys).entries ↔ entry ∈ m.entries ∧ entry.1 ∉ keys
  := by
  induction keys generalizing m with
  | nil => simp [eraseAll]
  | cons key keys ih =>
      change entry ∈ ((m.erase key).eraseAll keys).entries ↔ _
      rw [ih, mem_erase_iff, List.mem_cons, not_or, and_assoc]

/-- In step with a toggle, a table has the entries that the toggle stands for, in case it is on,
and no others with their keys. -/
theorem mem_sync_iff {t : Toggle} {on : Bool} :
  entry ∈ (m.sync t on).entries ↔
    (on = true ∧ entry ∈ t.impliedEntries) ∨
      (entry ∈ m.entries ∧ entry.1 ∉ t.impliedEntries.map Prod.fst)
  := by
  cases on with
  | true =>
      change entry ∈ (m.putAll t.impliedEntries).entries ↔ _
      rw [mem_putAll_iff t.nodup_impliedEntries, eq_self, true_and]
  | false =>
      change entry ∈ (m.eraseAll (t.impliedEntries.map Prod.fst)).entries ↔ _
      rw [mem_eraseAll_iff]
      simp only [Bool.false_eq_true, false_and, false_or]

/-! ### What is given for a key -/

theorem get?_eq_some_iff :
  m.get? key = some value ↔ (key, value) ∈ m.entries
  := by
  constructor
  · intro h
    obtain ⟨before, behind, hentries, -⟩ := List.lookup_eq_some_iff.mp h
    rw [hentries]
    apply List.mem_append_right before List.mem_cons_self
  · intro h
    obtain ⟨before, behind, hentries⟩ := List.append_of_mem h
    have hnodup := m.nodup
    rw [hentries, List.map_append, List.map_cons, List.nodup_middle] at hnodup
    apply List.lookup_eq_some_iff.mpr
    refine ⟨before, behind, hentries, fun e he => ?_⟩
    apply bne_iff_ne.mpr
    rintro rfl
    apply (List.nodup_cons.mp hnodup).1
    apply List.mem_append_left _ (List.mem_map_of_mem he)

theorem get?_eq_none_iff :
  m.get? key = none ↔ key ∉ m.keys
  := by
  rw [get?, List.lookup_eq_none_iff, keys, List.mem_map]
  constructor
  · rintro h ⟨e, he, rfl⟩
    apply bne_iff_ne.mp (h e he) rfl
  · intro h e he
    apply bne_iff_ne.mpr
    rintro rfl
    apply h ⟨e, he, rfl⟩

end ReplaceMap

namespace Tables

variable {tables : Tables}

/-- Every entry of the replacement table is one that a toggle stands for. -/
def IsImplied (tables : Tables) : Prop :=
  ∀ entry ∈ tables.replaceMap.entries, ∃ t ∈ Toggle.all, entry ∈ t.impliedEntries

instance (tables : Tables) : Decidable tables.IsImplied :=
  inferInstanceAs (Decidable (∀ entry ∈ _, _))

/-- Keeping the table in step with a toggle brings in no entries of another kind. -/
theorem IsImplied.sync (h : tables.IsImplied) (t : Toggle) (on : Bool) :
  (tables.sync t on).IsImplied
  := by
  intro entry hentry
  rcases ReplaceMap.mem_sync_iff.mp hentry with ⟨-, hentry⟩ | ⟨hentry, -⟩
  · exact ⟨t, t.mem_all, hentry⟩
  · apply h entry hentry

end Tables

end JapaneseProse
