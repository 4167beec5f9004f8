import JapaneseProse.Proofs.Text.Spans
import JapaneseProse.Rule.Repetition

/-!
# Repeated marks

* `repeated_eq_nil_iff`: nothing is repeated if and only if no mark is followed by one that
  repeats it.
* `isChain_fix`: when repetitions are reduced, none is left.
* `reaches_fix`: they are reduced by dropping marks one by one, each behind a mark that it
  repeats.
* `fix_eq_foldl`: each is looked for as many columns earlier as those before it have dropped.
* `fix_eq_rewriteSpans`: what is reduced is what is reported.
-/

namespace JapaneseProse.Repetition

variable {k : CharClass} {strict : Bool} {c d : Char} {s t : Text} {n : Nat}

/-- The characters that repeat a mark when they follow it. -/
def echoes (k : CharClass) (strict : Bool) (c : Char) : CharClass :=
  if strict then k else ⟨[c], false⟩

/-- The second character is a mark that repeats the first. -/
def Repeats (k : CharClass) (strict : Bool) (c d : Char) : Prop :=
  k.contains c = true ∧ (echoes k strict c).contains d = true

/-- A mark is dropped behind one that it repeats. -/
inductive Merge (k : CharClass) (strict : Bool) : Text → Text → Prop where
  | drop {c d : Char} (h : Repeats k strict c d) : Merge k strict [c, d] [c]

/-- A mark with one or more that repeat it. -/
def pattern (k : CharClass) (strict : Bool) : Pattern :=
  if strict then .longRun k else .copies k

theorem contains_singleton (c d : Char) :
  CharClass.contains ⟨[c], false⟩ d = (d == c)
  := by
  rw [Bool.eq_iff_iff]
  simp [CharClass.contains]

theorem Repeats.contains_second (h : Repeats k strict c d) :
  k.contains d = true
  := by
  obtain ⟨hc, hd⟩ := h
  cases strict with
  | true => exact hd
  | false =>
      have hdc : (d == c) = true := by
        rw [← contains_singleton]
        exact hd
      rw [eq_of_beq hdc]
      exact hc

theorem length?_pattern (k : CharClass) (strict : Bool) (c : Char) (s : Text) :
  (pattern k strict).length? (c :: s) =
    if k.contains c = true ∧ 0 < Pattern.runLength (echoes k strict c) s then
      some (Pattern.runLength (echoes k strict c) s + 1)
    else none
  := by
  by_cases hc : k.contains c = true
  · cases strict with
    | true =>
        change (Pattern.stretch k 2 none).length? (c :: s) = _
        rw [Pattern.length?_stretch, Pattern.runLength_cons_of_pos s hc]
        simp only [hc, echoes, if_true, true_and, Nat.succ_le_succ_iff, Nat.succ_le_iff]
    | false =>
        have hrun : (s.takeWhile (· == c)).length = Pattern.runLength ⟨[c], false⟩ s := by
          rw [Pattern.runLength, funext (contains_singleton c)]
        change (Pattern.copies k).length? (c :: s) = _
        rw [Pattern.length?_eq, Pattern.lengths, if_pos hc, hrun, Pattern.head?_countDown]
        simp only [hc, echoes, Bool.false_eq_true, if_false, true_and, Nat.succ_le_succ_iff,
          Nat.succ_le_iff]
  · have hnone : (pattern k strict).length? (c :: s) = none := by
      cases strict with
      | true =>
          apply Pattern.length?_stretch_eq_none_iff.mpr
          rw [Pattern.runLength_cons_of_neg s hc]
          apply Nat.succ_pos 1
      | false =>
          change (Pattern.copies k).length? (c :: s) = _
          rw [Pattern.length?_eq, Pattern.lengths, if_neg hc]
          rfl
    rw [hnone, if_neg fun h => hc h.1]

theorem length?_pattern_nil (k : CharClass) (strict : Bool) :
  (pattern k strict).length? [] = none
  := by
  cases strict <;> rfl

theorem consuming_pattern (k : CharClass) (strict : Bool) :
  (pattern k strict).Consuming
  := by
  intro s n h
  cases s with
  | nil =>
      rw [length?_pattern_nil] at h
      cases h
  | cons c s =>
      rw [length?_pattern] at h
      split at h
      · cases h
        apply Nat.succ_pos _
      · cases h

theorem length?_pattern_eq_none_iff :
  (pattern k strict).length? (c :: s) = none ↔ ∀ d ∈ s.head?, ¬Repeats k strict c d
  := by
  have hzero : ¬0 < Pattern.runLength (echoes k strict c) s ↔
      ∀ d ∈ s.head?, ¬(echoes k strict c).contains d = true := by
    rw [Nat.pos_iff_ne_zero, not_not, Pattern.runLength_eq_zero_iff]
  have hiff : (pattern k strict).length? (c :: s) = none ↔
      ¬(k.contains c = true ∧ 0 < Pattern.runLength (echoes k strict c) s) := by
    rw [length?_pattern]
    split <;> simp_all
  rw [hiff, not_and, hzero]
  constructor
  · intro h d hd hrepeats
    apply h hrepeats.1 d hd hrepeats.2
  · intro h hc d hd hecho
    apply h d hd ⟨hc, hecho⟩

/-! ### Finding repetitions -/

theorem repeated_eq (marks : List Text) (strict : Bool) (line : Text) :
  repeated marks strict line = (pattern (.ofEntries marks) strict).matchesIn line
  := rfl

/-- Nothing is repeated if and only if no mark is followed by one that repeats it. -/
theorem repeated_eq_nil_iff {marks : List Text} {strict : Bool} {line : Text} :
  repeated marks strict line = [] ↔
    line.IsChain fun c d => ¬Repeats (.ofEntries marks) strict c d
  := by
  rw [repeated_eq]
  apply Pattern.matchesIn_eq_nil_iff_isChain (length?_pattern_nil _ strict)
  intro c s _
  apply length?_pattern_eq_none_iff

/-! ### Reducing repetitions -/

theorem lint_eq_nil_iff {marks : List Text} {number : Nat} {line : Text} :
  lint marks strict number line = [] ↔
    line.IsChain fun c d => ¬Repeats (.ofEntries marks) strict c d
  := by
  rw [lint, List.map_eq_nil_iff, repeated_eq_nil_iff]

theorem fix_of_isChain {marks : List Text} {strict : Bool} {line : Text}
    (h : line.IsChain fun c d => ¬Repeats (.ofEntries marks) strict c d) :
  fix marks strict line = line
  := by
  rw [fix, repeated_eq_nil_iff.mpr h]
  rfl

theorem placed_repeated (marks : List Text) (strict : Bool) (line : Text) :
  Placed 0 (repeated marks strict line) line
  := Pattern.placed_matchesIn (consuming_pattern (.ofEntries marks) strict) line

/-- A line from which earlier repetitions have taken `dropped` characters, with one more of them
reduced to its first mark. -/
def reduceNext (state : Text × Nat) (m : Match) : Text × Nat :=
  let (line, dropped) := state
  let i := m.offset - dropped
  (line.take i ++ m.text.take 1 ++ line.drop (i + m.text.length), dropped + (m.text.length - 1))

/-- With more taken away than added, every repetition is looked for as many columns earlier. -/
theorem applyShifted_eq_foldl {ms : List Match} (hne : ∀ m ∈ ms, m.text ≠ []) {grown shrunk : Nat}
    (hle : grown ≤ shrunk) (line : Text) :
  Edit.applyShifted grown shrunk (ms.map fun m => ⟨m.offset, m.text.length, m.text.take 1⟩) line =
    (ms.foldl reduceNext (line, shrunk - grown)).1
  := by
  induction ms generalizing grown shrunk line with
  | nil => rfl
  | cons m ms ih =>
      obtain ⟨hm, hms⟩ := List.forall_mem_cons.mp hne
      have hpos := List.length_pos_iff.mpr hm
      have hfirst : (m.text.take 1).length = 1 := List.length_take_of_le hpos
      have hplace : m.offset + grown - shrunk = m.offset - (shrunk - grown) := by omega
      have hdropped : shrunk + m.text.length - (grown + 1) =
          shrunk - grown + (m.text.length - 1) := by
        omega
      have hle' : grown + 1 ≤ shrunk + m.text.length := by omega
      rw [List.map_cons, Edit.applyShifted, hfirst, ih hms hle', hdropped, List.foldl_cons,
        Edit.splice, hplace]
      rfl

/-- Every repetition is looked for as many columns earlier as those before it have dropped. -/
theorem fix_eq_foldl (marks : List Text) (strict : Bool) (line : Text) :
  fix marks strict line = ((repeated marks strict line).foldl reduceNext (line, 0)).1
  := by
  apply applyShifted_eq_foldl _ (Nat.le_refl 0)
  apply Pattern.text_ne_nil_of_mem_matchesIn (consuming_pattern (.ofEntries marks) strict)

/-- The repetitions that are reduced one after another are all replaced at once. -/
theorem fix_eq_replaceMatches (marks : List Text) (strict : Bool) (line : Text) :
  fix marks strict line = replaceMatches (·.take 1) 0 (repeated marks strict line) line
  := by
  have h := Edit.applyAll_eq_replaceMatches (fun t => ⟨0, t.length, t.take 1⟩)
    (fun t => by simp) (placed_repeated marks strict line)
  simp only [Edit.splice_zero, List.take_zero, List.nil_append, Nat.zero_add, List.drop_length,
    List.append_nil] at h
  apply h

theorem fix_eq_rewrite (marks : List Text) (strict : Bool) (line : Text) :
  fix marks strict line = (pattern (.ofEntries marks) strict).rewrite (·.take 1) line
  := by
  rw [fix_eq_replaceMatches, repeated_eq,
    Pattern.replaceMatches_matchesIn (consuming_pattern (.ofEntries marks) strict)]

/-- The spans that are reported are rewritten: the first mark of each stays. -/
theorem fix_eq_rewriteSpans (marks : List Text) (strict : Bool) (number : Nat) (line : Text) :
  fix marks strict line = rewriteSpans (·.take 1) (lint marks strict number line) line
  := by
  rw [lint, rewriteSpans_ofMatch _ _ _ (placed_repeated marks strict line),
    fix_eq_replaceMatches]

/-- What is claimed is a mark with its repetitions, and the mark is what is left. -/
theorem claim?_pattern_eq_some (h : (pattern k strict).claim? (·.take 1) c s = some (n, t)) :
  k.contains c = true ∧ n = Pattern.runLength (echoes k strict c) s ∧ t = [c]
  := by
  rw [Pattern.claim?, length?_pattern] at h
  split at h
  · cases h
    exact ⟨‹_ ∧ _›.1, rfl, rfl⟩
  · cases h

/-- When repetitions are reduced, none is left. -/
theorem isChain_fix (marks : List Text) (strict : Bool) (line : Text) :
  (fix marks strict line).IsChain fun c d => ¬Repeats (.ofEntries marks) strict c d
  := by
  rw [fix_eq_rewrite]
  have hhead := head?_joinPieces ((pattern (.ofEntries marks) strict).claim? (·.take 1))
    (by
      intro c s n t h
      obtain ⟨-, -, rfl⟩ := claim?_pattern_eq_some h
      rfl)
  apply isChain_joinPieces
  · intro c s h
    rw [hhead]
    apply length?_pattern_eq_none_iff.mp (Pattern.claim?_eq_none_iff.mp h)
  · intro c s n t h
    obtain ⟨-, rfl, rfl⟩ := claim?_pattern_eq_some h
    constructor
    · apply List.isChain_singleton
    · intro a ha d hd hrepeats
      rw [hhead] at hd
      obtain rfl : c = a := by simpa using ha
      apply Pattern.not_contains_of_mem_head?_drop hd hrepeats.2

/-- Repetitions are reduced by dropping marks one by one. -/
theorem reaches_fix (marks : List Text) (strict : Bool) (line : Text) :
  Reaches (Merge (.ofEntries marks) strict) line (fix marks strict line)
  := by
  rw [fix_eq_rewrite]
  apply reaches_joinPieces
  intro c s n t h
  obtain ⟨hc, rfl, rfl⟩ := claim?_pattern_eq_some h
  apply Reaches.drop_behind
  intro d hd
  apply Merge.drop ⟨hc, Pattern.contains_of_mem_take (Nat.le_refl _) hd⟩

end JapaneseProse.Repetition
