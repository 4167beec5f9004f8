import JapaneseProse.Proofs.Rule.LineEnd
import Mathlib.Order.Bounds.Basic

/-!
# The longest row of entries at the end of a line

A line ends at its last column, or in front of a final line feed (`endColumn`).  If no entry holds
a line feed, what is dropped is the longest row of entries that leads up to there (`IsRow`), in
whatever way the entries overlap: the row begins at the least column from which there is one.

* `isRow_iff`: a row is what the search for entries finds (`Spaced`), unless it is empty.
* `afterSpaces?_eq_some_iff`: from a column, entries lead to the end if and only if what stands
  between is a row.
* `longest_row_dropped`: the longest row is dropped, and nothing else; a line without line feed
  does not end in an entry afterwards, and a second pass drops nothing.
-/

namespace JapaneseProse.LineEnd

variable {entries : List Text} {b s v w : Text}

/-- One or more entries, one directly behind the other; an empty entry does not count. -/
def IsRow (entries : List Text) (w : Text) : Prop :=
  ∃ es : List Text, es ≠ [] ∧ (∀ e ∈ es, e ∈ entries ∧ e ≠ []) ∧ es.flatten = w

/-- The column behind a line, or that of a line feed with which it ends. -/
def endColumn (line : Text) : Nat :=
  if line.getLast? = some '\n' then line.length - 1 else line.length

/-! ### Rows of entries -/

theorem spaced_flatten {es : List Text} (h : ∀ e ∈ es, e ∈ entries ∧ e ≠ []) :
  Spaced entries es.flatten
  := by
  induction es with
  | nil => exact .nil
  | cons e es ih =>
      obtain ⟨⟨he, hne⟩, h⟩ := List.forall_mem_cons.mp h
      exact .append he hne (ih h)

theorem Spaced.exists_flatten (h : Spaced entries w) :
  ∃ es : List Text, (∀ e ∈ es, e ∈ entries ∧ e ≠ []) ∧ es.flatten = w
  := by
  induction h with
  | nil => exact ⟨[], List.forall_mem_nil _, rfl⟩
  | @append e w he hne _ ih =>
      obtain ⟨es, hes, rfl⟩ := ih
      exact ⟨e :: es, List.forall_mem_cons.mpr ⟨⟨he, hne⟩, hes⟩, rfl⟩

theorem isRow_iff :
  IsRow entries w ↔ w ≠ [] ∧ Spaced entries w
  := by
  constructor
  · rintro ⟨es, hne, hes, rfl⟩
    obtain ⟨e, es, rfl⟩ := List.exists_cons_of_ne_nil hne
    exact ⟨List.append_ne_nil_of_left_ne_nil (hes e List.mem_cons_self).2 _, spaced_flatten hes⟩
  · rintro ⟨hne, hw⟩
    obtain ⟨es, hes, rfl⟩ := hw.exists_flatten
    refine ⟨es, ?_, hes, rfl⟩
    rintro rfl
    exact hne rfl

theorem not_isRow_nil :
  ¬IsRow entries []
  := fun h => (isRow_iff.mp h).1 rfl

/-! ### The end of a line -/

theorem atEnd_iff :
  atEnd v = true ↔ v = [] ∨ v = ['\n']
  := by
  rw [atEnd, Bool.or_eq_true, beq_iff_eq, beq_iff_eq]

/-- `v` is what stands behind the last column of a line that begins with `b`. -/
structure IsTail (b v : Text) : Prop where
  atEnd : LineEnd.atEnd v = true
  getLast?_ne : v = [] → b.getLast? ≠ some '\n'

theorem IsTail.of_cons {c : Char} (h : IsTail (c :: b) v) :
  IsTail b v
  := by
  refine ⟨h.atEnd, fun hnil hlast => h.getLast?_ne hnil ?_⟩
  rw [List.getLast?_cons, hlast]
  rfl

/-- Every line is cut at its end in two. -/
theorem exists_isTail (line : Text) :
  ∃ b v, line = b ++ v ∧ b.length = endColumn line ∧ IsTail b v
  := by
  by_cases hlast : line.getLast? = some '\n'
  · obtain ⟨b, rfl⟩ := List.getLast?_eq_some_iff.mp hlast
    refine ⟨b, ['\n'], rfl, ?_, rfl, fun hnil => absurd hnil (List.cons_ne_nil _ _)⟩
    rw [endColumn, if_pos hlast, List.length_append, List.length_singleton, Nat.add_sub_cancel]
  · refine ⟨line, [], (List.append_nil line).symm, ?_, rfl, fun _ => hlast⟩
    rw [endColumn, if_neg hlast]

section

variable (hentries : ∀ e ∈ entries, '\n' ∉ e)

include hentries

theorem Spaced.not_mem (h : Spaced entries w) :
  '\n' ∉ w
  := by
  intro hmem
  obtain ⟨e, he, hfeed⟩ := (CharClass.contains_ofEntries entries '\n').mp (h.contains '\n' hmem)
  apply hentries e he hfeed

/-- A row of entries that leads to the end of a line leads up to its last column. -/
theorem IsTail.eq_of_append_eq (h : IsTail b v) (hs : b ++ v = w ++ s) (hw : Spaced entries w)
    (hend : LineEnd.atEnd s = true) :
  w = b ∧ s = v
  := by
  have hfeed := hw.not_mem hentries
  rcases atEnd_iff.mp h.atEnd with rfl | rfl
  · rcases atEnd_iff.mp hend with rfl | rfl
    · rw [List.append_nil, List.append_nil] at hs
      exact ⟨hs.symm, rfl⟩
    · rw [List.append_nil] at hs
      apply absurd _ (h.getLast?_ne rfl)
      rw [hs, List.getLast?_concat]
  · rcases atEnd_iff.mp hend with rfl | rfl
    · rw [List.append_nil] at hs
      apply absurd _ hfeed
      rw [← hs]
      exact List.mem_append_right b List.mem_cons_self
    · exact ⟨(List.append_cancel_right hs).symm, rfl⟩

/-- Entries lead to the end of the line if and only if what stands before the end is a row. -/
theorem afterSpaces?_eq_some_iff (h : IsTail b v) :
  afterSpaces? entries (b ++ v) = some s ↔ IsRow entries b ∧ s = v
  := by
  have hrow (u : Text) (hu : afterSpaces? entries (b ++ v) = some u) : IsRow entries b ∧ u = v := by
    obtain ⟨w, hsplit, hne, hw, hend⟩ := spaced_of_afterSpaces? hu
    obtain ⟨rfl, rfl⟩ := h.eq_of_append_eq hentries hsplit hw hend
    exact ⟨isRow_iff.mpr ⟨hne, hw⟩, rfl⟩
  constructor
  · exact hrow s
  · rintro ⟨hb, rfl⟩
    have hne : afterSpaces? entries (b ++ s) ≠ none := by
      obtain ⟨hnil, hspaced⟩ := isRow_iff.mp hb
      cases hspaced with
      | nil => exact absurd rfl hnil
      | append he hne hw =>
          rw [List.append_assoc]
          apply afterSpaces?_append_ne_none he hne (isSome_afterEntries?_append hw h.atEnd)
    obtain ⟨u, hu⟩ := Option.ne_none_iff_exists'.mp hne
    rw [hu, (hrow u hu).2]

theorem fix_eq_self_of_atEnd (hv : atEnd v = true) :
  fix entries v = v
  := by
  rcases atEnd_iff.mp hv with rfl | rfl
  · rfl
  · have hnone : afterSpaces? entries ['\n'] = none := by
      apply Option.eq_none_iff_forall_ne_some.mpr
      intro s hs
      have htail : IsTail [] ['\n'] := ⟨rfl, fun hnil => absurd hnil (List.cons_ne_nil _ _)⟩
      apply not_isRow_nil ((afterSpaces?_eq_some_iff hentries htail).mp hs).1
    rw [fix_cons, hnone]
    rfl

/-- What is dropped begins at the least column from which there is a row. -/
theorem fix_append_eq (h : IsTail b v) :
  (∃ i, IsLeast {i | IsRow entries (b.drop i)} i ∧ fix entries (b ++ v) = b.take i ++ v) ∨
    (∀ i, ¬IsRow entries (b.drop i)) ∧ fix entries (b ++ v) = b ++ v
  := by
  induction b with
  | nil =>
      right
      refine ⟨fun i => ?_, fix_eq_self_of_atEnd hentries h.atEnd⟩
      rw [List.drop_nil]
      exact not_isRow_nil
  | cons c b ih =>
      rw [List.cons_append, fix_cons]
      cases hspaces : afterSpaces? entries (c :: (b ++ v)) with
      | some s =>
          left
          obtain ⟨hrow, rfl⟩ := (afterSpaces?_eq_some_iff hentries h).mp hspaces
          exact ⟨0, ⟨hrow, fun i _ => Nat.zero_le i⟩, rfl⟩
      | none =>
          have hfirst : ¬IsRow entries (c :: b) := by
            intro hrow
            have hsome := (afterSpaces?_eq_some_iff hentries h).mpr ⟨hrow, rfl⟩
            rw [List.cons_append, hspaces] at hsome
            cases hsome
          rcases ih h.of_cons with ⟨i, ⟨hi, hleast⟩, hfix⟩ | ⟨hrows, hfix⟩
          · left
            refine ⟨i + 1, ⟨hi, ?_⟩, by rw [hfix]; rfl⟩
            rintro j hj
            cases j with
            | zero => exact absurd hj hfirst
            | succ j => exact Nat.succ_le_succ (hleast hj)
          · right
            refine ⟨?_, by rw [hfix]; rfl⟩
            intro i
            cases i with
            | zero => exact hfirst
            | succ i => exact hrows i

end

/-! ### What is dropped from a line -/

theorem not_mem_fix (hfeed : '\n' ∉ s) :
  '\n' ∉ fix entries s
  := by
  obtain ⟨w, hsplit, -⟩ := exists_spaced_fix entries hfeed
  intro hmem
  apply hfeed
  rw [hsplit]
  exact List.mem_append_left w hmem

/-- The longest row of entries that leads up to the end of the line is dropped, and nothing else; if
there is none, the line stays.  A line without line feed does not end in an entry afterwards, and a
second pass drops nothing. -/
theorem longest_row_dropped (hentries : ∀ e ∈ entries, '\n' ∉ e) (line : Text) :
  ((∃ i, IsLeast {i | IsRow entries (line.extract i (endColumn line))} i ∧
      fix entries line = line.take i ++ line.drop (endColumn line)) ∨
    (∀ i, ¬IsRow entries (line.extract i (endColumn line))) ∧ fix entries line = line) ∧
  ('\n' ∉ line →
    Trimmed entries (fix entries line) ∧ fix entries (fix entries line) = fix entries line)
  := by
  constructor
  · obtain ⟨b, v, rfl, hlen, htail⟩ := exists_isTail line
    have hextract (i : Nat) : (b ++ v).extract i b.length = b.drop i := by
      rw [List.extract_eq_take_drop, ← List.drop_take, List.take_left]
    rw [← hlen, List.drop_left]
    simp only [hextract]
    rcases fix_append_eq hentries htail with ⟨i, hleast, hfix⟩ | hnone
    · left
      have hle : i ≤ b.length := by
        by_contra hlt
        have hrow : IsRow entries (b.drop i) := hleast.1
        rw [List.drop_eq_nil_of_le (Nat.le_of_not_le hlt)] at hrow
        apply not_isRow_nil hrow
      exact ⟨i, hleast, by rw [hfix, List.take_append_of_le_length hle]⟩
    · exact Or.inr hnone
  · intro hfeed
    have htrimmed := trimmed_fix entries hfeed
    exact ⟨htrimmed, fix_of_trimmed (not_mem_fix hfeed) htrimmed⟩

/-- The entries overlap, and the last one that can be taken away first leaves a space that is no
entry. -/
theorem longest_row_dropped_overlapping :
  let entries : List Text := [['　'], [], [' ', '　'], ['　', '\t']]
  let line : Text := ['あ', ' ', '　', '　', '\t']
  (∀ e ∈ entries, '\n' ∉ e) ∧ '\n' ∉ line ∧
    IsLeast {i | IsRow entries (line.extract i (endColumn line))} 1 ∧
    fix entries line = ['あ'] ∧ Trimmed entries ['あ'] ∧ fix entries ['あ'] = ['あ']
  := by
  intro entries line
  have hentries : ∀ e ∈ entries, '\n' ∉ e := by decide
  have hfeed : '\n' ∉ line := by decide
  have hrow : IsRow entries (line.extract 1 (endColumn line)) :=
    ⟨[[' ', '　'], ['　', '\t']], List.cons_ne_nil _ _, by decide, rfl⟩
  have hleast : IsLeast {i | IsRow entries (line.extract i (endColumn line))} 1 := by
    refine ⟨hrow, ?_⟩
    intro i hi
    cases i with
    | zero => exact absurd ((isRow_iff.mp hi).2.contains 'あ' (by decide)) (by decide)
    | succ i => exact Nat.succ_le_succ (Nat.zero_le i)
  obtain ⟨hline, hpass⟩ := longest_row_dropped hentries line
  rcases hline with ⟨i, hi, hfix⟩ | ⟨hnone, -⟩
  · obtain rfl := hi.unique hleast
    have hfix : fix entries line = ['あ'] := hfix
    have htrimmed := hpass hfeed
    rw [hfix] at htrimmed
    exact ⟨hentries, hfeed, hleast, hfix, htrimmed⟩
  · exact absurd hrow (hnone 1)

end JapaneseProse.LineEnd
