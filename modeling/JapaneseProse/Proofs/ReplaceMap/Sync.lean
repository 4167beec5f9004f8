import JapaneseProse.Proofs.ReplaceMap
import Mathlib.Data.List.Perm.Basic

/-!
# Replacement tables in step with toggles

A table follows a toggle if it has the entries that the toggle stands for, in case the toggle is
on, and none with their keys otherwise (`Follows`).  Bringing a table in step with a toggle makes
the table follow it (`follows_sync`) and disturbs no other toggle (`Follows.sync`).  A table that
follows the toggle already stays as it is (`Follows.sync_eq`).

The entries under all other keys are a table's own.  They stay, and they stay in order
(`ownEntries_sync`).  If they come first, they go on coming first (`OwnFirst.sync`).
-/

namespace JapaneseProse.ReplaceMap

variable {m n : ReplaceMap} {t u : Toggle} {on : Bool} {key value : Text} {entry : Text × Text}

/-! ### Entries that toggles stand for -/

/-- Under the keys of a toggle, the table has what the toggle stands for, in case it is on, and
nothing otherwise. -/
def Follows (m : ReplaceMap) (t : Toggle) (on : Bool) : Prop :=
  ∀ entry, entry.1 ∈ t.impliedEntries.map Prod.fst →
    (entry ∈ m.entries ↔ on = true ∧ entry ∈ t.impliedEntries)

/-- What a table that follows a toggle gives for the keys of the toggle. -/
theorem Follows.get?_eq (h : m.Follows t on) (hentry : entry ∈ t.impliedEntries) :
  m.get? entry.1 = if on then some entry.2 else none
  := by
  have hkey : entry.1 ∈ t.impliedEntries.map Prod.fst := List.mem_map_of_mem hentry
  cases on with
  | true => apply get?_eq_some_iff.mpr ((h entry hkey).mpr ⟨rfl, hentry⟩)
  | false =>
      apply get?_eq_none_iff.mpr
      intro hmem
      obtain ⟨e, he, hk⟩ := List.mem_map.mp hmem
      apply Bool.false_ne_true ((h e (hk ▸ hkey)).mp he).1

theorem follows_sync (m : ReplaceMap) (t : Toggle) (on : Bool) :
  (m.sync t on).Follows t on
  := by
  intro entry hkey
  rw [mem_sync_iff]
  tauto

/-- Toggles do not get in each other's way. -/
theorem Follows.sync (h : m.Follows t on) (hne : t ≠ u) (onU : Bool) :
  (m.sync u onU).Follows t on
  := by
  intro entry hkey
  obtain ⟨e, he, hk⟩ := List.mem_map.mp hkey
  have hkeyU : entry.1 ∉ u.impliedEntries.map Prod.fst := hk ▸ Toggle.key_not_mem_of_ne he hne
  have hmem : entry ∉ u.impliedEntries := fun hentry => hkeyU (List.mem_map_of_mem hentry)
  rw [mem_sync_iff, h entry hkey]
  tauto

theorem put_of_mem (h : (key, value) ∈ m.entries) :
  m.put key value = m
  := by
  apply ReplaceMap.ext
  rw [entries_put_of_mem (List.mem_map_of_mem h), overwrite]
  conv_rhs => rw [← List.map_id m.entries]
  apply List.map_congr_left
  intro e he
  split
  · rename_i hkey
    apply (List.inj_on_of_nodup_map m.nodup he h hkey).symm
  · rfl

theorem erase_of_not_mem (h : key ∉ m.keys) :
  m.erase key = m
  := by
  apply ReplaceMap.ext
  apply List.filter_eq_self.mpr
  intro e he
  apply decide_eq_true
  rintro rfl
  apply h (List.mem_map_of_mem he)

/-- A table that follows a toggle already is in step with it, and so keeps its entries in order. -/
theorem Follows.sync_eq (h : m.Follows t on) :
  m.sync t on = m
  := by
  cases on with
  | true =>
      apply List.foldlRecOn (motive := fun n => n = m) t.impliedEntries _ rfl
      rintro n rfl entry hentry
      apply put_of_mem
      apply (h entry (List.mem_map_of_mem hentry)).mpr ⟨rfl, hentry⟩
  | false =>
      apply List.foldlRecOn (motive := fun n => n = m) (t.impliedEntries.map Prod.fst) _ rfl
      rintro n rfl key hkey
      apply erase_of_not_mem
      intro hmem
      obtain ⟨entry, hentry, rfl⟩ := List.mem_map.mp hmem
      apply Bool.false_ne_true ((h entry hkey).mp hentry).1

/-! ### Own entries -/

/-- No toggle stands for the key of the entry. -/
def isOwn (entry : Text × Text) : Bool := !impliedKeys.contains entry.1

/-- The entries whose keys no toggle stands for. -/
def ownEntries (m : ReplaceMap) : List (Text × Text) := m.entries.filter isOwn

/-- The own entries come before those that toggles stand for. -/
def OwnFirst (m : ReplaceMap) : Prop :=
  ∃ rest, m.entries = m.ownEntries ++ rest

theorem isOwn_iff :
  isOwn entry = true ↔ entry.1 ∉ impliedKeys
  := by
  rw [isOwn, Bool.not_eq_true', List.contains_eq_mem, decide_eq_false_iff_not]

theorem mem_ownEntries_iff :
  entry ∈ m.ownEntries ↔ entry ∈ m.entries ∧ entry.1 ∉ impliedKeys
  := by
  rw [ownEntries, List.mem_filter, isOwn_iff]

/-- Behind own entries that come first there are no others. -/
theorem key_mem_impliedKeys_of_mem_rest {rest : List (Text × Text)}
    (hrest : m.entries = m.ownEntries ++ rest) (hentry : entry ∈ rest) :
  entry.1 ∈ impliedKeys
  := by
  by_contra hkey
  have hnodup : (m.ownEntries ++ rest).Nodup := hrest ▸ List.Nodup.of_map _ m.nodup
  have hmem : entry ∈ m.ownEntries := by
    apply mem_ownEntries_iff.mpr ⟨_, hkey⟩
    rw [hrest]
    apply List.mem_append_right _ hentry
  apply List.disjoint_of_nodup_append hnodup hmem hentry

/-- If all entries are own ones, they come first. -/
theorem ownFirst_of_forall (h : ∀ key ∈ m.keys, key ∉ impliedKeys) :
  m.OwnFirst
  := by
  use []
  rw [List.append_nil, ownEntries, List.filter_eq_self.mpr]
  intro entry hentry
  apply isOwn_iff.mpr (h entry.1 (List.mem_map_of_mem hentry))

theorem overwrite_of_not_mem {l : List (Text × Text)} (h : key ∉ l.map Prod.fst) :
  overwrite key value l = l
  := by
  rw [overwrite]
  conv_rhs => rw [← List.map_id l]
  apply List.map_congr_left
  intro e he
  apply if_neg
  rintro rfl
  apply h (List.mem_map_of_mem he)

theorem key_not_mem_ownEntries (h : key ∈ impliedKeys) :
  key ∉ m.ownEntries.map Prod.fst
  := by
  intro hkey
  obtain ⟨e, he, rfl⟩ := List.mem_map.mp hkey
  apply (mem_ownEntries_iff.mp he).2 h

theorem ownEntries_put (h : key ∈ impliedKeys) (value : Text) :
  (m.put key value).ownEntries = m.ownEntries
  := by
  by_cases hmem : key ∈ m.keys
  · have hkey : (isOwn ∘ fun e => if e.1 = key then (key, value) else e) = isOwn := by
      funext e
      by_cases he : e.1 = key <;> simp [isOwn, he]
    rw [ownEntries, entries_put_of_mem hmem, overwrite, List.filter_map, hkey]
    apply overwrite_of_not_mem (key_not_mem_ownEntries h)
  · rw [ownEntries, entries_put_of_not_mem hmem, List.filter_append, ← ownEntries]
    simp [isOwn, h]

theorem ownEntries_erase (h : key ∈ impliedKeys) :
  (m.erase key).ownEntries = m.ownEntries
  := by
  rw [ownEntries, ownEntries, erase, List.filter_filter]
  apply List.filter_congr
  intro e _
  by_cases he : e.1 = key <;> simp [isOwn, he, h]

theorem OwnFirst.put (hown : m.OwnFirst) (h : key ∈ impliedKeys) (value : Text) :
  (m.put key value).OwnFirst
  := by
  obtain ⟨rest, hrest⟩ := hown
  rw [OwnFirst, ownEntries_put h]
  by_cases hmem : key ∈ m.keys
  · use overwrite key value rest
    have hown : overwrite key value m.ownEntries = m.ownEntries :=
      overwrite_of_not_mem (key_not_mem_ownEntries h)
    rw [entries_put_of_mem hmem, hrest, overwrite, List.map_append, ← overwrite, hown]
    rfl
  · use rest ++ [(key, value)]
    rw [entries_put_of_not_mem hmem, hrest, List.append_assoc]

theorem OwnFirst.erase (hown : m.OwnFirst) (h : key ∈ impliedKeys) :
  (m.erase key).OwnFirst
  := by
  obtain ⟨rest, hrest⟩ := hown
  have hkept : (m.ownEntries.filter fun e => e.1 ≠ key) = m.ownEntries := by
    apply List.filter_eq_self.mpr
    intro e he
    apply decide_eq_true
    rintro rfl
    apply (mem_ownEntries_iff.mp he).2 h
  use rest.filter fun e => e.1 ≠ key
  rw [ownEntries_erase h, ← hkept, ← List.filter_append, ← hrest]
  rfl

/-- What is kept when entries with implied keys are written and erased is kept when the table is
brought in step with a toggle. -/
theorem sync_induction {P : ReplaceMap → Prop}
    (put : ∀ m key value, key ∈ impliedKeys → P m → P (m.put key value))
    (erase : ∀ m key, key ∈ impliedKeys → P m → P (m.erase key)) (h : P m) :
  P (m.sync t on)
  := by
  cases on with
  | true =>
      apply List.foldlRecOn t.impliedEntries _ h
      intro n hn entry hentry
      apply put n _ _ (Toggle.key_mem_impliedKeys hentry) hn
  | false =>
      apply List.foldlRecOn (t.impliedEntries.map Prod.fst) _ h
      intro n hn key hkey
      obtain ⟨entry, hentry, rfl⟩ := List.mem_map.mp hkey
      apply erase n _ (Toggle.key_mem_impliedKeys hentry) hn

theorem ownEntries_sync (m : ReplaceMap) (t : Toggle) (on : Bool) :
  (m.sync t on).ownEntries = m.ownEntries
  := by
  apply sync_induction (P := fun n => n.ownEntries = m.ownEntries) _ _ rfl
  · intro n key value hkey hn
    rw [ownEntries_put hkey, hn]
  · intro n key hkey hn
    rw [ownEntries_erase hkey, hn]

theorem OwnFirst.sync (h : m.OwnFirst) (t : Toggle) (on : Bool) :
  (m.sync t on).OwnFirst
  := by
  apply sync_induction _ _ h
  · intro n key value hkey hn
    apply hn.put hkey
  · intro n key hkey hn
    apply hn.erase hkey

/-! ### Tables that follow the same toggles -/

/-- Tables with the same own entries that follow the same settings have the same entries, perhaps
in another order. -/
theorem perm_of_follows {settings : Settings} (hm : ∀ t, m.Follows t (settings t))
    (hn : ∀ t, n.Follows t (settings t)) (hown : m.ownEntries = n.ownEntries) :
  m.entries.Perm n.entries
  := by
  apply (List.perm_ext_iff_of_nodup (.of_map _ m.nodup) (.of_map _ n.nodup)).mpr
  intro entry
  by_cases hkey : entry.1 ∈ impliedKeys
  · obtain ⟨t, e, he, hk⟩ := mem_impliedKeys_iff.mp hkey
    have hkey : entry.1 ∈ t.impliedEntries.map Prod.fst := hk ▸ List.mem_map_of_mem he
    rw [hm t entry hkey, hn t entry hkey]
  · have hmem : entry ∈ m.ownEntries ↔ entry ∈ n.ownEntries := by rw [hown]
    rw [mem_ownEntries_iff, mem_ownEntries_iff] at hmem
    tauto

end JapaneseProse.ReplaceMap
