import JapaneseProse.Text.Basic

/-!
# Replacement tables

A replacement table pairs texts with their replacements.  Its entries have an order,
and no text is listed twice: writing an entry anew keeps its place, and a new entry
goes to the end.
-/

namespace JapaneseProse

/-- Texts and their replacements, in order, each text once. -/
structure ReplaceMap where
  entries : List (Text × Text)
  nodup : (entries.map Prod.fst).Nodup

namespace ReplaceMap

/-- The table without entries. -/
def empty : ReplaceMap := ⟨[], by simp⟩

instance : Inhabited ReplaceMap := ⟨empty⟩

/-- The texts that have a replacement, in order. -/
def keys (m : ReplaceMap) : List Text := m.entries.map Prod.fst

/-- The replacement of a text. -/
def get? (m : ReplaceMap) (key : Text) : Option Text := m.entries.lookup key

/-- Entries with the value of one key changed. -/
def overwrite (key value : Text) (l : List (Text × Text)) : List (Text × Text) :=
  l.map fun e => if e.1 = key then (key, value) else e

theorem map_fst_overwrite (key value : Text) (l : List (Text × Text)) :
  (overwrite key value l).map Prod.fst = l.map Prod.fst
  := by
  simp only [overwrite, List.map_map]
  apply List.map_congr_left
  intro e _
  by_cases h : e.1 = key <;> simp [h]

/-- Writing an entry keeps the place of its key; a new key goes to the end. -/
def put (m : ReplaceMap) (key value : Text) : ReplaceMap :=
  if h : key ∈ m.keys then
    ⟨overwrite key value m.entries, by rw [map_fst_overwrite]; exact m.nodup⟩
  else
    ⟨m.entries ++ [(key, value)], by
      rw [List.map_append, List.nodup_append]
      refine ⟨m.nodup, by simp, ?_⟩
      intro a ha b hb
      rw [List.map_singleton, List.mem_singleton] at hb
      subst hb
      rintro rfl
      exact h ha⟩

/-- The table without an entry for `key`. -/
def erase (m : ReplaceMap) (key : Text) : ReplaceMap :=
  ⟨m.entries.filter fun e => e.1 ≠ key,
    m.nodup.sublist (List.filter_sublist.map Prod.fst)⟩

/-- Entries written one after another. -/
def putAll (m : ReplaceMap) (l : List (Text × Text)) : ReplaceMap :=
  l.foldl (fun m e => m.put e.1 e.2) m

/-- Keys erased one after another. -/
def eraseAll (m : ReplaceMap) (keys : List Text) : ReplaceMap := keys.foldl erase m

/-- The table of some pairs; a key that comes again keeps its first place and takes
its last value. -/
def ofList (l : List (Text × Text)) : ReplaceMap := empty.putAll l

@[ext]
theorem ext {m n : ReplaceMap} (h : m.entries = n.entries) :
  m = n
  := by
  cases m
  cases n
  simp_all

end ReplaceMap

end JapaneseProse
