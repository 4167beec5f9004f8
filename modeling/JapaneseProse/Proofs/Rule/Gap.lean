import JapaneseProse.Proofs.Text.Spans
import JapaneseProse.Rule.Gap

/-!
# A gap after marks

A run of marks lacks a gap if what stands behind the run asks for one (`Lacks`).

* `missing_eq_nil_iff`: no gap is missing, the end of the line left alone, if and only if every
  mark is followed by a mark, an excluded character or the line feed.
* `isChain_fix`: this is so when the gaps are put in, if the gap is one excluded character and
  no mark.
* `reaches_fix`: the gaps are put in one by one, each between a mark and a character that is
  neither a mark nor excluded.
* `fix_eq_foldl`: each is put in further on by the length of the gaps before it.
* `fix_eq_rewriteSpans`: they are put into the spans that are reported.
-/

namespace JapaneseProse.Gap

open Pattern (runLength)

variable {marks excluded : List Text} {gap : Text} {c d : Char} {s t : Text} {n : Nat}
variable {exceptAtEnd : Bool}

/-- The characters before which no gap is put. -/
def noGap (marks excluded : List Text) : CharClass := .ofEntries (marks ++ excluded)

theorem contains_noGap_of_mark (h : (CharClass.ofEntries marks).contains c = true) :
  (noGap marks excluded).contains c = true
  := by
  rw [CharClass.contains_ofEntries] at h
  obtain ⟨e, he, hc⟩ := h
  rw [noGap, CharClass.contains_ofEntries]
  exact ⟨e, List.mem_append_left _ he, hc⟩

theorem contains_noGap_iff :
  (noGap marks excluded).contains c = true ↔
    (CharClass.ofEntries marks).contains c = true ∨
      (CharClass.ofEntries excluded).contains c = true
  := CharClass.contains_ofEntries_append

/-- What stands behind a run of marks asks for a gap. -/
def Lacks (marks excluded : List Text) (exceptAtEnd : Bool) : Option Char → Prop
  | none => exceptAtEnd = false
  | some d => ¬(noGap marks excluded).contains d = true ∧ (exceptAtEnd = true → d ≠ '\n')

/-- The second character may follow the first as far as gaps are concerned. -/
def Fits (marks excluded : List Text) (c d : Char) : Prop :=
  (CharClass.ofEntries marks).contains c = true →
    (noGap marks excluded).contains d = true ∨ d = '\n'

/-- A gap is put between a mark and a character that asks for it. -/
inductive Insert (marks excluded : List Text) (gap : Text) : Text → Text → Prop where
  | insert {c d : Char} (hc : (CharClass.ofEntries marks).contains c = true)
      (hd : ¬(noGap marks excluded).contains d = true) :
      Insert marks excluded gap [c, d] (c :: gap ++ [d])

/-- How many characters behind the run belong to a match. -/
def tailLength (exceptAtEnd : Bool) : Nat := if exceptAtEnd then 1 else 0

/-! ### Finding runs that lack a gap -/

theorem mem_lengths_notBefore {k : CharClass} :
  n ∈ (Pattern.notBefore k).lengths s ↔ n = 0 ∧ ∀ d ∈ s.head?, ¬k.contains d = true
  := by
  cases s with
  | nil => simp [Pattern.lengths]
  | cons d s => by_cases hd : k.contains d = true <;> simp [Pattern.lengths, hd]

theorem mem_lengths_single {k : CharClass} :
  n ∈ (Pattern.single k).lengths s ↔ n = 1 ∧ ∃ d ∈ s.head?, k.contains d = true
  := by
  rw [← Pattern.runLength_pos_iff]
  change n ∈ Pattern.countDown (min (runLength k s) 1) 1 ↔ _
  rw [Pattern.mem_countDown]
  omega

/-- A shorter run is followed by a mark, so only the whole run counts. -/
theorem mem_lengths_guarded :
  n ∈ (Pattern.followedBy (.run (.ofEntries marks)) (.notBefore (noGap marks excluded))).lengths s ↔
    n = runLength (.ofEntries marks) s ∧ 0 < n ∧
      ∀ d ∈ (s.drop n).head?, ¬(noGap marks excluded).contains d = true
  := by
  constructor
  · intro h
    obtain ⟨i, hi, h⟩ := List.mem_flatMap.mp h
    obtain ⟨j, hj, rfl⟩ := List.mem_map.mp h
    obtain ⟨hpos, hle⟩ := Pattern.mem_countDown.mp hi
    obtain ⟨rfl, hguard⟩ := mem_lengths_notBefore.mp hj
    have hzero : runLength (.ofEntries marks) (s.drop i) = 0 := by
      apply Pattern.runLength_eq_zero_iff.mpr
      intro d hd hmark
      apply hguard d hd (contains_noGap_of_mark hmark)
    rw [Pattern.runLength_drop _ hle] at hzero
    change i ≤ runLength (.ofEntries marks) s at hle
    exact ⟨by omega, hpos, hguard⟩
  · rintro ⟨hn, hpos, hguard⟩
    apply List.mem_flatMap.mpr
    use n, Pattern.mem_countDown.mpr ⟨hpos, Nat.le_of_eq hn⟩
    apply List.mem_map.mpr
    use 0, mem_lengths_notBefore.mpr ⟨rfl, hguard⟩
    rfl

theorem lacks_false_iff {next : Option Char} :
  Lacks marks excluded false next ↔ ∀ d ∈ next, ¬(noGap marks excluded).contains d = true
  := by
  cases next <;> simp [Lacks]

theorem lacks_true_iff {next : Option Char} :
  Lacks marks excluded true next ↔
    (∀ d ∈ next, ¬(noGap marks excluded).contains d = true) ∧
      ∃ d ∈ next, CharClass.withinLine.contains d = true
  := by
  cases next <;> simp [Lacks, CharClass.contains_withinLine]

/-- The pattern takes a whole run that lacks a gap, and the character behind it if the end of
the line does not count. -/
theorem mem_lengths_pattern :
  n ∈ (pattern marks excluded exceptAtEnd).lengths s ↔
    n = runLength (.ofEntries marks) s + tailLength exceptAtEnd ∧
      0 < runLength (.ofEntries marks) s ∧
        Lacks marks excluded exceptAtEnd (s.drop (runLength (.ofEntries marks) s)).head?
  := by
  cases exceptAtEnd with
  | false =>
      rw [lacks_false_iff]
      have hguarded : n ∈ (pattern marks excluded false).lengths s ↔ _ := mem_lengths_guarded
      rw [hguarded]
      constructor
      · rintro ⟨rfl, h⟩
        exact ⟨rfl, h⟩
      · rintro ⟨rfl, h⟩
        exact ⟨rfl, h⟩
  | true =>
      rw [lacks_true_iff]
      constructor
      · intro h
        obtain ⟨i, hi, h⟩ := List.mem_flatMap.mp h
        obtain ⟨j, hj, rfl⟩ := List.mem_map.mp h
        obtain ⟨rfl, hpos, hguard⟩ := mem_lengths_guarded.mp hi
        obtain ⟨rfl, hline⟩ := mem_lengths_single.mp hj
        exact ⟨rfl, hpos, hguard, hline⟩
      · rintro ⟨rfl, hpos, hguard, hline⟩
        apply List.mem_flatMap.mpr
        use runLength (.ofEntries marks) s, mem_lengths_guarded.mpr ⟨rfl, hpos, hguard⟩
        apply List.mem_map.mpr
        use 1, mem_lengths_single.mpr ⟨rfl, hline⟩
        rfl

theorem length?_pattern_eq_some
    (h : (pattern marks excluded exceptAtEnd).length? s = some n) :
  n = runLength (.ofEntries marks) s + tailLength exceptAtEnd ∧
    0 < runLength (.ofEntries marks) s ∧
      Lacks marks excluded exceptAtEnd (s.drop (runLength (.ofEntries marks) s)).head?
  := by
  rw [Pattern.length?_eq] at h
  apply mem_lengths_pattern.mp (List.mem_of_head? h)

theorem length?_pattern_eq_none_iff :
  (pattern marks excluded exceptAtEnd).length? s = none ↔
    (0 < runLength (.ofEntries marks) s →
      ¬Lacks marks excluded exceptAtEnd (s.drop (runLength (.ofEntries marks) s)).head?)
  := by
  rw [Pattern.length?_eq, List.head?_eq_none_iff]
  constructor
  · intro h hpos hlacks
    have hmem := mem_lengths_pattern.mpr ⟨rfl, hpos, hlacks⟩
    rw [h] at hmem
    apply List.not_mem_nil hmem
  · intro h
    apply List.eq_nil_iff_forall_not_mem.mpr
    intro i hi
    obtain ⟨-, hpos, hlacks⟩ := mem_lengths_pattern.mp hi
    apply h hpos hlacks

theorem consuming_pattern (marks excluded : List Text) (exceptAtEnd : Bool) :
  (pattern marks excluded exceptAtEnd).Consuming
  := by
  intro s n h
  obtain ⟨rfl, hpos, -⟩ := length?_pattern_eq_some h
  apply Nat.lt_add_right _ hpos

theorem runLength_cons_of_not_contains_noGap
    (hc : (CharClass.ofEntries marks).contains c = true)
    (hd : ∀ d ∈ s.head?, ¬(noGap marks excluded).contains d = true) :
  runLength (.ofEntries marks) (c :: s) = 1
  := by
  rw [Pattern.runLength_cons_of_pos s hc, Nat.add_eq_right]
  apply Pattern.runLength_eq_zero_iff.mpr
  intro d hmem hmark
  apply hd d hmem (contains_noGap_of_mark hmark)

/-- Where no gap is missing, the next character fits. -/
theorem fits_of_length?_eq_none (h : (pattern marks excluded true).length? (c :: s) = none) :
  ∀ d ∈ s.head?, Fits marks excluded c d
  := by
  intro d hd hc
  by_contra hfits
  push Not at hfits
  obtain ⟨hgap, hline⟩ := hfits
  have hnext : ∀ e ∈ s.head?, ¬(noGap marks excluded).contains e = true := by
    intro e he
    obtain rfl := Option.mem_unique hd he
    exact hgap
  have hlacks := length?_pattern_eq_none_iff.mp h
  rw [runLength_cons_of_not_contains_noGap hc hnext, List.drop_succ_cons, List.drop_zero] at hlacks
  apply hlacks Nat.one_pos
  apply lacks_true_iff.mpr
  exact ⟨hnext, d, hd, (CharClass.contains_withinLine d).mpr hline⟩

/-- No gap is missing if and only if every next character fits. -/
theorem missing_eq_nil_iff {line : Text} :
  missing marks excluded true line = [] ↔ line.IsChain (Fits marks excluded)
  := by
  apply Pattern.matchesIn_eq_nil_iff_isChain
    (consuming_pattern marks excluded true).length?_nil
  intro c s hs
  constructor
  · exact fits_of_length?_eq_none
  · intro hfits
    apply length?_pattern_eq_none_iff.mpr
    intro hpos hlacks
    obtain ⟨e, he, hc⟩ := Pattern.runLength_pos_iff.mp hpos
    obtain rfl : c = e := by simpa using he
    rw [Pattern.runLength_cons_of_pos s hc, List.drop_succ_cons] at hlacks
    by_cases hrun : 0 < runLength (.ofEntries marks) s
    · apply length?_pattern_eq_none_iff.mp hs hrun hlacks
    · rw [Nat.eq_zero_of_not_pos hrun, List.drop_zero] at hlacks
      obtain ⟨hgap, d, hd, hline⟩ := lacks_true_iff.mp hlacks
      rcases hfits d hd hc with hexcluded | rfl
      · apply hgap d hd hexcluded
      · apply (CharClass.contains_withinLine _).mp hline rfl

theorem lint_eq_nil_iff {number : Nat} {line : Text} :
  lint marks excluded true number line = [] ↔ line.IsChain (Fits marks excluded)
  := by
  rw [lint, List.map_eq_nil_iff, missing_eq_nil_iff]

/-! ### Putting gaps in -/

theorem fix_of_isChain {line : Text} (h : line.IsChain (Fits marks excluded)) :
  fix marks gap excluded true line = line
  := by
  rw [fix, missing_eq_nil_iff.mpr h]
  rfl

/-- The `i`-th gap is put in `i` gaps further on. -/
theorem fix_eq_foldl (marks : List Text) (gap : Text) (excluded : List Text) (exceptAtEnd : Bool)
    (line : Text) :
  fix marks gap excluded exceptAtEnd line =
    (missing marks excluded exceptAtEnd line).zipIdx.foldl
      (fun line p => insertAt
        (p.1.offset + p.1.text.length - tailLength exceptAtEnd + gap.length * p.2) gap line)
      line
  := by
  apply Edit.applyShifted_inserts _ _ 0 line
  intro m _
  rfl

/-- A match with the gap put in behind its run. -/
def withGap (gap : Text) (exceptAtEnd : Bool) (t : Text) : Text :=
  let n := t.length - tailLength exceptAtEnd
  t.take n ++ gap ++ t.drop n

theorem placed_missing (marks excluded : List Text) (exceptAtEnd : Bool) (line : Text) :
  Placed 0 (missing marks excluded exceptAtEnd line) line
  := Pattern.placed_matchesIn (consuming_pattern marks excluded exceptAtEnd) line

/-- The gaps that are put in one after another replace all matches at once. -/
theorem fix_eq_replaceMatches (marks : List Text) (gap : Text) (excluded : List Text)
    (exceptAtEnd : Bool) (line : Text) :
  fix marks gap excluded exceptAtEnd line =
    replaceMatches (withGap gap exceptAtEnd) 0 (missing marks excluded exceptAtEnd line) line
  := by
  have hp := consuming_pattern marks excluded exceptAtEnd
  have h := Edit.applyAll_eq_replaceMatches
    (fun t => ⟨t.length - tailLength exceptAtEnd, 0, gap⟩) (fun t => Nat.sub_le _ _)
    (placed_missing marks excluded exceptAtEnd line)
  apply Eq.trans _ h
  rw [fix, missing]
  congr 1
  apply List.map_congr_left
  intro m hm
  have hpos := List.length_pos_iff.mpr (Pattern.text_ne_nil_of_mem_matchesIn hp line m hm)
  have htail : tailLength exceptAtEnd ≤ m.text.length := by
    cases exceptAtEnd
    · apply Nat.zero_le _
    · exact hpos
  have hstart := Nat.add_sub_assoc htail m.offset
  rw [Edit.shift, ← hstart]
  rfl

theorem fix_eq_rewrite (marks : List Text) (gap : Text) (excluded : List Text)
    (exceptAtEnd : Bool) (line : Text) :
  fix marks gap excluded exceptAtEnd line =
    (pattern marks excluded exceptAtEnd).rewrite (withGap gap exceptAtEnd) line
  := by
  rw [fix_eq_replaceMatches, missing,
    Pattern.replaceMatches_matchesIn (consuming_pattern marks excluded exceptAtEnd)]

theorem withGap_concat (gap u : Text) (d : Char) :
  withGap gap true (u ++ [d]) = u ++ gap ++ [d]
  := by
  have hlen : (u ++ [d]).length - tailLength true = u.length := by simp [tailLength]
  simp only [withGap, hlen, List.take_left, List.drop_left]

/-- What is claimed is a run of marks and a character that asks for a gap. -/
theorem claim?_pattern_eq_some
    (h : (pattern marks excluded true).claim? (withGap gap true) c s = some (n, t)) :
  ∃ xs x d, c :: s.take n = xs ++ [x] ++ [d] ∧ t = xs ++ [x] ++ gap ++ [d] ∧
    (∀ y ∈ xs ++ [x], (CharClass.ofEntries marks).contains y = true) ∧
    ¬(noGap marks excluded).contains d = true
  := by
  obtain ⟨m, hm, heq⟩ := Option.map_eq_some_iff.mp h
  obtain ⟨rfl, hpos, hlacks⟩ := length?_pattern_eq_some hm
  obtain ⟨hgap, d, hd, -⟩ := lacks_true_iff.mp hlacks
  obtain ⟨r, hr⟩ := Nat.exists_eq_succ_of_ne_zero (Nat.ne_of_gt hpos)
  have hrun : ∀ y ∈ c :: s.take r, (CharClass.ofEntries marks).contains y = true := by
    intro y hy
    apply Pattern.contains_of_mem_take (n := r + 1) (Nat.le_of_eq hr.symm) hy
  rw [hr, List.drop_succ_cons] at hd hgap
  have htake : s.take (r + 1) = s.take r ++ [d] := by
    rw [List.take_add_one, ← List.head?_drop, Option.mem_def.mp hd]
    rfl
  obtain ⟨xs, x, hxs⟩ := (List.eq_nil_or_concat (c :: s.take r)).resolve_left
    (List.cons_ne_nil _ _)
  rw [List.concat_eq_append] at hxs
  have hsplit : c :: s.take (r + 1) = xs ++ [x] ++ [d] := by
    rw [htake, ← List.cons_append, hxs]
  rw [hr] at heq
  obtain ⟨rfl, rfl⟩ := Prod.mk.inj heq
  use xs, x, d, hsplit
  and_intros
  · rw [← withGap_concat, ← hsplit]
    rfl
  · rw [← hxs]
    exact hrun
  · apply hgap d hd

/-- When the gaps are put in, none is missing. -/
theorem isChain_fix {g : Char} (hg : (CharClass.ofEntries excluded).contains g = true)
    (hmark : ¬(CharClass.ofEntries marks).contains g = true) (line : Text) :
  (fix marks [g] excluded true line).IsChain (Fits marks excluded)
  := by
  rw [fix_eq_rewrite]
  have hhead := head?_joinPieces ((pattern marks excluded true).claim? (withGap [g] true))
    (by
      intro c s n t h
      obtain ⟨xs, x, d, hsplit, rfl, -⟩ := claim?_pattern_eq_some h
      cases xs <;> simp_all)
  apply isChain_joinPieces
  · intro c s h
    rw [hhead]
    apply fits_of_length?_eq_none (Pattern.claim?_eq_none_iff.mp h)
  · intro c s n t h
    obtain ⟨xs, x, d, -, rfl, hxs, hd⟩ := claim?_pattern_eq_some h
    have hrun : (xs ++ [x]).IsChain (Fits marks excluded) := by
      apply List.isChain_iff_forall_rel_of_append_cons_cons.mpr
      intro a b u v huv _
      left
      apply contains_noGap_of_mark (hxs b _)
      simp [huv]
    constructor
    · apply (hrun.append (List.isChain_singleton g) _).append (List.isChain_singleton d)
      · intro a ha e _ hmarka
        obtain rfl : g = a := by simpa using ha
        exact absurd hmarka hmark
      · intro a _ e he _
        obtain rfl : g = e := by simpa using he
        left
        apply contains_noGap_iff.mpr (Or.inr hg)
    · intro a ha e _ hmarka
      obtain rfl : d = a := by simpa using ha
      exact absurd (contains_noGap_of_mark hmarka) hd

/-- The gaps are put in one by one. -/
theorem reaches_fix (marks : List Text) (gap : Text) (excluded : List Text) (line : Text) :
  Reaches (Insert marks excluded gap) line (fix marks gap excluded true line)
  := by
  rw [fix_eq_rewrite]
  apply reaches_joinPieces
  intro c s n t h
  obtain ⟨xs, x, d, hsplit, rfl, hxs, hd⟩ := claim?_pattern_eq_some h
  have hinsert : Insert marks excluded gap [x, d] (x :: gap ++ [d]) :=
    .insert (hxs x (by simp)) hd
  have h := (Reaches.of_change hinsert).append_left xs
  rw [hsplit]
  simpa using h

/-! ### Spans -/

/-- In a match, the gap is put in right behind the marks at its head. -/
theorem withGap_of_length?
    (h : (pattern marks excluded exceptAtEnd).length? (c :: s) = some (n + 1)) :
  withGap gap exceptAtEnd (c :: s.take n) =
    (c :: s.take n).takeWhile (CharClass.ofEntries marks).contains ++ gap ++
      (c :: s.take n).dropWhile (CharClass.ofEntries marks).contains
  := by
  have hlen : (c :: s.take n).length = n + 1 :=
    List.length_take_of_le (l := c :: s) (Pattern.le_length_of_length? h)
  have hrun : runLength (.ofEntries marks) (c :: s.take n) = n + 1 - tailLength exceptAtEnd := by
    have htake := Pattern.runLength_take (.ofEntries marks) (n + 1) (c :: s)
    have hn := (length?_pattern_eq_some h).1
    rw [List.take_succ_cons] at htake
    omega
  rw [withGap, hlen, ← hrun, Pattern.take_runLength, Pattern.drop_runLength]

/-- The spans that are reported are rewritten: the gap is put in behind the marks at the head of
each. -/
theorem fix_eq_rewriteSpans (marks : List Text) (gap : Text) (excluded : List Text)
    (exceptAtEnd : Bool) (number : Nat) (line : Text) :
  fix marks gap excluded exceptAtEnd line =
    rewriteSpans
      (fun t => t.takeWhile (CharClass.ofEntries marks).contains ++ gap ++
        t.dropWhile (CharClass.ofEntries marks).contains)
      (lint marks excluded exceptAtEnd number line) line
  := by
  rw [lint, rewriteSpans_ofMatch _ _ _ (placed_missing marks excluded exceptAtEnd line),
    fix_eq_replaceMatches]
  apply replaceMatches_congr
  apply Pattern.forall_mem_matchesIn
    (P := fun t => withGap gap exceptAtEnd t =
      t.takeWhile (CharClass.ofEntries marks).contains ++ gap ++
        t.dropWhile (CharClass.ofEntries marks).contains)
    (consuming_pattern marks excluded exceptAtEnd)
  intro c s n h
  apply withGap_of_length? h

end JapaneseProse.Gap
