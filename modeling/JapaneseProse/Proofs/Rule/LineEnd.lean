import JapaneseProse.Rule.LineEnd
import JapaneseProse.Text.CharClass
import Mathlib.Tactic.Use

/-!
# The end of a line

What is dropped at the end of a line is a row of entries (`Spaced`), in front of a final line
feed perhaps.

* `trim_fix`: only characters of entries are dropped, and all of them at the end.
* `trimmed_fix`: a line without line feed does not end in an entry afterwards.
* `fix_of_trimmed`: a line without line feed that does not end in an entry stays.
-/

namespace JapaneseProse.LineEnd

variable {entries : List Text} {s v : Text}

/-- A row of entries. -/
inductive Spaced (entries : List Text) : Text → Prop where
  | nil : Spaced entries []
  | append {e w : Text} (he : e ∈ entries) (hne : e ≠ []) (hw : Spaced entries w) :
      Spaced entries (e ++ w)

/-- Characters of a class are dropped where a line may end. -/
inductive Trim (k : CharClass) : Text → Text → Prop where
  | drop (u : Text) {w v : Text} (hw : ∀ c ∈ w, k.contains c = true) (hv : atEnd v = true) :
      Trim k (u ++ w ++ v) (u ++ v)

/-- The line does not end in an entry. -/
def Trimmed (entries : List Text) (s : Text) : Prop :=
  ∀ e ∈ entries, e ≠ [] → ¬e <:+ s

/-! ### Rows of entries -/

theorem Spaced.contains {w : Text} (h : Spaced entries w) :
  ∀ c ∈ w, (CharClass.ofEntries entries).contains c = true
  := by
  induction h with
  | nil => simp
  | append he _ _ ih =>
      intro c hc
      rcases List.mem_append.mp hc with hc | hc
      · apply (CharClass.contains_ofEntries _ c).mpr ⟨_, he, hc⟩
      · apply ih c hc

/-- A row of entries ends in an entry, unless it is empty. -/
theorem Spaced.not_trimmed {w : Text} (h : Spaced entries w) (hne : w ≠ []) (u : Text) :
  ¬Trimmed entries (u ++ w)
  := by
  induction h generalizing u with
  | nil => exact absurd rfl hne
  | @append e w he hnee hw ih =>
      cases w with
      | nil =>
          intro h
          apply h e he hnee
          rw [List.append_nil]
          apply List.suffix_append
      | cons c w =>
          rw [← List.append_assoc]
          apply ih (List.cons_ne_nil c w)

theorem afterSpaces?_eq_some (h : afterSpaces? entries s = some v) :
  ∃ e ∈ entries, e ≠ [] ∧ e <+: s ∧ afterEntries? entries (s.drop e.length) = some v
  := by
  obtain ⟨e, he, h⟩ := List.exists_of_findSome?_eq_some h
  split at h
  · rename_i hentry
    exact ⟨e, he, hentry.1, hentry.2, h⟩
  · cases h

/-- If entries lead to the end of the line behind an entry, they do so from its head. -/
theorem afterSpaces?_append_ne_none {e : Text} (he : e ∈ entries) (hne : e ≠ [])
    (hs : (afterEntries? entries s).isSome = true) :
  afterSpaces? entries (e ++ s) ≠ none
  := by
  intro h
  rw [afterSpaces?, List.findSome?_eq_none_iff] at h
  have hnone := h e he
  rw [if_pos ⟨hne, List.prefix_append e s⟩, List.drop_left] at hnone
  rw [hnone] at hs
  cases hs

/-- What is left of a text stands behind a row of entries, and there a line may end. -/
theorem spaced_of_afterEntries? (h : afterEntries? entries s = some v) :
  ∃ w, s = w ++ v ∧ Spaced entries w ∧ atEnd v = true
  := by
  induction hlen : s.length using Nat.strongRecOn generalizing s with
  | ind len ih =>
      subst hlen
      rw [afterEntries?_eq] at h
      cases hspaces : afterSpaces? entries s with
      | some u =>
          rw [hspaces] at h
          obtain rfl : u = v := by simpa using h
          obtain ⟨e, he, hne, ⟨r, rfl⟩, hrest⟩ := afterSpaces?_eq_some hspaces
          rw [List.drop_left] at hrest
          have hpos := List.length_pos_iff.mpr hne
          obtain ⟨w, rfl, hw, hv⟩ := ih r.length
            (by rw [List.length_append]; omega) hrest rfl
          use e ++ w
          exact ⟨by rw [List.append_assoc], .append he hne hw, hv⟩
      | none =>
          rw [hspaces] at h
          split at h
          · rename_i hend
            obtain rfl : s = v := by simpa using h
            exact ⟨[], rfl, .nil, hend⟩
          · simp at h

theorem spaced_of_afterSpaces? (h : afterSpaces? entries s = some v) :
  ∃ w, s = w ++ v ∧ w ≠ [] ∧ Spaced entries w ∧ atEnd v = true
  := by
  obtain ⟨e, he, hne, ⟨r, rfl⟩, hrest⟩ := afterSpaces?_eq_some h
  rw [List.drop_left] at hrest
  obtain ⟨w, rfl, hw, hv⟩ := spaced_of_afterEntries? hrest
  use e ++ w
  exact ⟨by rw [List.append_assoc], by simp [hne], .append he hne hw, hv⟩

/-! ### What is dropped -/

/-- Only characters of entries are dropped, and only where the line may end. -/
theorem trim_fix (entries : List Text) (s : Text) :
  Trim (.ofEntries entries) s (fix entries s)
  := by
  induction s with
  | nil => apply Trim.drop [] (w := []) (by simp) rfl
  | cons c s ih =>
      rw [fix_cons]
      cases h : afterSpaces? entries (c :: s) with
      | some v =>
          obtain ⟨w, hsplit, -, hw, hv⟩ := spaced_of_afterSpaces? h
          rw [hsplit]
          apply Trim.drop [] hw.contains hv
      | none =>
          rw [Option.getD_none]
          generalize fix entries s = t at ih
          cases ih with
          | drop u hw hv => apply Trim.drop (c :: u) hw hv

/-! ### Lines without line feed -/

theorem eq_nil_of_atEnd (h : atEnd v = true) (hfeed : '\n' ∉ v) :
  v = []
  := by
  rw [atEnd, Bool.or_eq_true, beq_iff_eq, beq_iff_eq] at h
  rcases h with h | rfl
  · exact h
  · exact absurd List.mem_cons_self hfeed

/-- From a line without line feed the characters at its end are dropped. -/
theorem Trim.exists_append {k : CharClass} {s' : Text} (h : Trim k s s') (hfeed : '\n' ∉ s) :
  ∃ w, s = s' ++ w ∧ ∀ c ∈ w, k.contains c = true
  := by
  obtain ⟨u, hw, hv⟩ := h
  obtain rfl := eq_nil_of_atEnd hv fun hv => hfeed (List.mem_append_right _ hv)
  rw [List.append_nil, List.append_nil]
  exact ⟨_, rfl, hw⟩

/-- A row of entries in front of the end of a line is found. -/
theorem isSome_afterEntries?_append {w : Text} (h : Spaced entries w) (hv : atEnd v = true) :
  (afterEntries? entries (w ++ v)).isSome = true
  := by
  induction h with
  | nil =>
      rw [afterEntries?_eq, List.nil_append, if_pos hv]
      cases afterSpaces? entries v <;> rfl
  | @append e w he hne _ ih =>
      have hspaces := afterSpaces?_append_ne_none he hne ih
      obtain ⟨u, hu⟩ := Option.ne_none_iff_exists'.mp hspaces
      rw [afterEntries?_eq, List.append_assoc, hu]
      rfl

theorem isSome_afterEntries? {w : Text} (h : Spaced entries w) :
  (afterEntries? entries w).isSome = true
  := by
  have happend := isSome_afterEntries?_append (v := []) h rfl
  rw [List.append_nil] at happend
  exact happend

/-- What is dropped from a line without line feed is a row of entries at its end. -/
theorem exists_spaced_fix (entries : List Text) (hfeed : '\n' ∉ s) :
  ∃ w, s = fix entries s ++ w ∧ Spaced entries w
  := by
  induction s with
  | nil => exact ⟨[], rfl, .nil⟩
  | cons c s ih =>
      rw [fix_cons]
      cases h : afterSpaces? entries (c :: s) with
      | some v =>
          obtain ⟨w, hsplit, -, hw, hv⟩ := spaced_of_afterSpaces? h
          rw [hsplit] at hfeed
          obtain rfl := eq_nil_of_atEnd hv (fun hv => hfeed (List.mem_append_right w hv))
          use w
          rw [hsplit, List.append_nil]
          exact ⟨rfl, hw⟩
      | none =>
          obtain ⟨w, hsplit, hw⟩ := ih (fun hs => hfeed (List.mem_cons_of_mem c hs))
          use w
          rw [Option.getD_none, List.cons_append, ← hsplit]
          exact ⟨rfl, hw⟩

/-- A line without line feed does not end in an entry afterwards. -/
theorem trimmed_fix (entries : List Text) (hfeed : '\n' ∉ s) :
  Trimmed entries (fix entries s)
  := by
  induction s with
  | nil =>
      intro e _ hne hsuffix
      apply hne (List.suffix_nil.mp hsuffix)
  | cons c s ih =>
      intro e he hne hsuffix
      have hfeed' : '\n' ∉ s := fun hs => hfeed (List.mem_cons_of_mem c hs)
      rw [fix_cons] at hsuffix
      cases h : afterSpaces? entries (c :: s) with
      | some v =>
          rw [h, Option.getD_some] at hsuffix
          obtain ⟨w, hsplit, -, -, hv⟩ := spaced_of_afterSpaces? h
          rw [hsplit] at hfeed
          obtain rfl := eq_nil_of_atEnd hv (fun hv => hfeed (List.mem_append_right w hv))
          apply hne (List.suffix_nil.mp hsuffix)
      | none =>
          rw [h, Option.getD_none] at hsuffix
          rcases List.suffix_cons_iff.mp hsuffix with rfl | hsuffix
          · -- The entry would begin a row of entries up to the end of the line.
            obtain ⟨w, hsplit, hw⟩ := exists_spaced_fix entries hfeed'
            have hspaces := afterSpaces?_append_ne_none he hne (isSome_afterEntries? hw)
            rw [List.cons_append, ← hsplit] at hspaces
            apply hspaces h
          · apply ih hfeed' e he hne hsuffix

/-- A line without line feed that does not end in an entry stays. -/
theorem fix_of_trimmed (hfeed : '\n' ∉ s) (h : Trimmed entries s) :
  fix entries s = s
  := by
  obtain ⟨w, hsplit, hw⟩ := exists_spaced_fix entries hfeed
  by_cases hne : w = []
  · subst hne
    rw [List.append_nil] at hsplit
    exact hsplit.symm
  · rw [hsplit] at h
    exact absurd h (hw.not_trimmed hne _)

end JapaneseProse.LineEnd
