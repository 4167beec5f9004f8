import JapaneseProse.Proofs.Text.Spans
import JapaneseProse.Rule.Doubling

/-!
# Doubled marks

* `isolated_eq_nil_iff`: no mark stands alone if and only if every mark has a mark beside it.
* `paired_fix`: this is so when the marks that stand alone are doubled.
* `reaches_fix`: they are doubled by writing one mark after another twice.
* `fix_eq_foldl`: each is written again as many columns further on as there are marks before it.
* `fix_eq_rewriteSpans`: what is doubled is what is reported.

A character that is no mark cuts a line into two parts, and the marks of the line are paired
if and only if those of the parts are.
-/

namespace JapaneseProse.Doubling

variable {k : CharClass} {c : Char} {r s t : Text}

/-- Every mark has a mark beside it. -/
def Paired (k : CharClass) (s : Text) : Prop :=
  ∀ u c v, s = u ++ c :: v → k.contains c = true →
    (∃ b ∈ u.getLast?, k.contains b = true) ∨ ∃ d ∈ v.head?, k.contains d = true

/-- A mark is written twice. -/
inductive Double (k : CharClass) : Text → Text → Prop where
  | double {c : Char} (h : k.contains c = true) : Double k [c] [c, c]

/-! ### Paired marks -/

theorem paired_nil (k : CharClass) :
  Paired k []
  := by
  intro u c v h
  simp at h

theorem Paired.append (hs : Paired k s) (ht : Paired k t) :
  Paired k (s ++ t)
  := by
  intro u c v h hc
  rcases List.append_eq_append_iff.mp h with ⟨w, rfl, rfl⟩ | ⟨w, rfl, hw⟩
  · rcases ht w c v rfl hc with ⟨b, hb, hkb⟩ | hd
    · left
      exact ⟨b, by simp [List.getLast?_append, Option.mem_def.mp hb], hkb⟩
    · right
      exact hd
  · cases w with
    | nil =>
        obtain rfl : t = c :: v := by simpa using hw.symm
        rcases ht [] c v rfl hc with ⟨b, hb, -⟩ | hd
        · simp at hb
        · right
          exact hd
    | cons d w =>
        obtain ⟨rfl, rfl⟩ := List.cons.inj hw
        rcases hs u c w rfl hc with hb | ⟨d, hd, hkd⟩
        · left
          exact hb
        · right
          exact ⟨d, by simp [List.head?_append, Option.mem_def.mp hd], hkd⟩

theorem paired_singleton_iff :
  Paired k [c] ↔ ¬k.contains c = true
  := by
  constructor
  · intro h hc
    rcases h [] c [] rfl hc with ⟨b, hb, -⟩ | ⟨b, hb, -⟩
    · simp at hb
    · simp at hb
  · intro hc u d v h hd
    rcases List.cons_eq_append_iff.mp h with ⟨rfl, h⟩ | ⟨w, rfl, h⟩
    · obtain ⟨rfl, -⟩ := List.cons.inj h
      exact absurd hd hc
    · simp at h

/-- A character that is no mark cuts the line into two parts. -/
theorem paired_append_cons_iff (hc : ¬k.contains c = true) :
  Paired k (s ++ c :: t) ↔ Paired k s ∧ Paired k t
  := by
  constructor
  · intro h
    constructor
    · rintro u d v rfl hd
      rcases h u d (v ++ c :: t) (by simp) hd with hb | ⟨e, he, hke⟩
      · left
        exact hb
      · right
        cases v with
        | nil =>
            obtain rfl : c = e := by simpa using he
            exact absurd hke hc
        | cons x v => exact ⟨e, he, hke⟩
    · rintro u d v rfl hd
      rcases h (s ++ c :: u) d v (by simp) hd with ⟨b, hb, hkb⟩ | he
      · left
        cases u using List.reverseRecOn with
        | nil =>
            obtain rfl : c = b := by simpa using hb
            exact absurd hkb hc
        | append_singleton u x =>
            have hassoc : s ++ c :: (u ++ [x]) = (s ++ c :: u) ++ [x] := by simp
            rw [hassoc, List.getLast?_concat] at hb
            exact ⟨b, by simpa using hb, hkb⟩
      · right
        exact he
  · rintro ⟨hs, ht⟩
    apply Paired.append hs
    apply Paired.append (paired_singleton_iff.mpr hc) ht

theorem paired_cons_iff (hc : ¬k.contains c = true) :
  Paired k (c :: t) ↔ Paired k t
  := by
  have h := paired_append_cons_iff (s := []) (t := t) hc
  rw [List.nil_append] at h
  rw [h, and_iff_right (paired_nil k)]

theorem paired_append_iff_of_forall (hs : ∀ d ∈ s, ¬k.contains d = true) :
  Paired k (s ++ t) ↔ Paired k t
  := by
  induction s with
  | nil => exact Iff.rfl
  | cons c s ih =>
      rw [List.cons_append, paired_cons_iff (hs c List.mem_cons_self)]
      apply ih
      intro d hd
      apply hs d (List.mem_cons_of_mem c hd)

/-- What stands between two parts of the line can be anything without marks, but not nothing. -/
theorem Paired.replace {u s' : Text} (h : Paired k (u ++ s ++ t)) (hne : s ≠ []) (hne' : s' ≠ [])
    (hs : ∀ d ∈ s, ¬k.contains d = true) (hs' : ∀ d ∈ s', ¬k.contains d = true) :
  Paired k (u ++ s' ++ t)
  := by
  have hsplit (r : Text) (hne : r ≠ []) (hr : ∀ d ∈ r, ¬k.contains d = true) :
      Paired k (u ++ r ++ t) ↔ Paired k u ∧ Paired k t := by
    cases r with
    | nil => exact absurd rfl hne
    | cons c r =>
        rw [List.append_assoc, List.cons_append,
          paired_append_cons_iff (hr c List.mem_cons_self),
          paired_append_iff_of_forall fun d hd => hr d (List.mem_cons_of_mem c hd)]
  rw [hsplit s' hne' hs']
  apply (hsplit s hne hs).mp h

theorem paired_of_run (hr : ∀ d ∈ r, k.contains d = true) (hlen : 2 ≤ r.length) :
  Paired k r
  := by
  rintro u c v rfl hc
  cases v with
  | nil =>
      left
      cases u using List.reverseRecOn with
      | nil => simp at hlen
      | append_singleton u b => exact ⟨b, by simp, hr b (by simp)⟩
  | cons d v =>
      right
      exact ⟨d, rfl, hr d (by simp)⟩

/-- A run has to have two marks, whatever comes behind it. -/
theorem paired_run_append_iff (hne : r ≠ []) (hr : ∀ d ∈ r, k.contains d = true)
    (ht : ∀ d ∈ t.head?, ¬k.contains d = true) :
  Paired k (r ++ t) ↔ 2 ≤ r.length ∧ Paired k t
  := by
  have hrun : Paired k r ↔ 2 ≤ r.length := by
    constructor
    · intro h
      by_contra hlen
      obtain ⟨c, rfl⟩ : ∃ c, r = [c] := by
        apply List.length_eq_one_iff.mp
        have := List.length_pos_iff.mpr hne
        omega
      apply paired_singleton_iff.mp h (hr c (by simp))
    · apply paired_of_run hr
  cases t with
  | nil => simp [hrun, paired_nil]
  | cons d t =>
      have hd := ht d rfl
      rw [paired_append_cons_iff hd, paired_cons_iff hd, hrun]

/-! ### Finding marks that stand alone -/

theorem consuming_run (k : CharClass) :
  (Pattern.run k).Consuming
  := by
  intro s n h
  apply (Pattern.length?_stretch_eq_some_iff.mp h).1

theorem occursIn_longRun (hr : ∀ d ∈ r, k.contains d = true) :
  (Pattern.longRun k).occursIn r = true ↔ 2 ≤ r.length
  := by
  cases r with
  | nil => simp [Pattern.occursIn, Pattern.longRun, Pattern.length?_stretch]
  | cons c r =>
      have hc := hr c (by simp)
      cases r with
      | nil =>
          simp [Pattern.occursIn, Pattern.longRun, Pattern.length?_stretch,
            Pattern.runLength_cons_of_pos _ hc]
      | cons d r =>
          have hd := hr d (by simp)
          simp [Pattern.occursIn, Pattern.longRun, Pattern.length?_stretch,
            Pattern.runLength_cons_of_pos _ hc, Pattern.runLength_cons_of_pos _ hd]

/-- All runs of marks are long if and only if the marks are paired. -/
theorem forall_run_iff_paired (offset : Nat) (s : Text) :
  (∀ m ∈ (Pattern.run k).matchesFrom offset 0 s, (Pattern.longRun k).occursIn m.text = true) ↔
    Paired k s
  := by
  induction offset, s using Pattern.matchesFrom_induction (consuming_run k) with
  | nil offset => simp [paired_nil]
  | fails offset c s h ih =>
      have hlt := Pattern.length?_stretch_eq_none_iff.mp h
      have hc := Pattern.runLength_eq_zero_iff.mp (Nat.lt_one_iff.mp hlt) c rfl
      rw [ih, paired_cons_iff hc]
  | found offset c s n h ih =>
      have hn := (Pattern.length?_stretch_eq_some_iff.mp h).2
      have hrun : ∀ d ∈ (c :: s).take (n + 1), k.contains d = true := by
        intro d hd
        apply Pattern.contains_of_mem_take (Nat.le_of_eq hn) hd
      have hrest : ∀ d ∈ ((c :: s).drop (n + 1)).head?, ¬k.contains d = true := by
        intro d hd
        rw [hn] at hd
        apply Pattern.not_contains_of_mem_head?_drop hd
      have hne : (c :: s).take (n + 1) ≠ [] := List.cons_ne_nil c _
      have hsplit := paired_run_append_iff hne hrun hrest
      rw [List.take_append_drop] at hsplit
      rw [List.forall_mem_cons, ih, hsplit, ← occursIn_longRun hrun]
      rfl

/-- No mark stands alone if and only if the marks are paired. -/
theorem isolated_eq_nil_iff {marks : List Text} {line : Text} :
  isolated marks line = [] ↔ Paired (.ofEntries marks) line
  := by
  rw [isolated, Pattern.matchesWithout, List.filter_eq_nil_iff, Pattern.matchesIn_eq,
    ← forall_run_iff_paired 0 line]
  simp

/-! ### Doubling marks -/

theorem lint_eq_nil_iff {marks : List Text} {number : Nat} {line : Text} :
  lint marks number line = [] ↔ Paired (.ofEntries marks) line
  := by
  rw [lint, List.map_eq_nil_iff, isolated_eq_nil_iff]

theorem fix_of_paired {marks : List Text} {line : Text} (h : Paired (.ofEntries marks) line) :
  fix marks line = line
  := by
  rw [fix, isolated_eq_nil_iff.mpr h]
  rfl

/-- What is made of a run of marks. -/
def doubled (k : CharClass) (r : Text) : Text :=
  if (Pattern.longRun k).occursIn r then r else r ++ r

theorem placed_isolated (marks : List Text) (line : Text) :
  Placed 0 (isolated marks line) line
  := (Pattern.placed_matchesIn (consuming_run (.ofEntries marks)) line).filter _

/-- The marks that are doubled one after another are all replaced at once. -/
theorem fix_eq_replaceMatches (marks : List Text) (line : Text) :
  fix marks line = replaceMatches (fun t => t ++ t) 0 (isolated marks line) line
  := by
  have h := Edit.applyAll_eq_replaceMatches (fun t => ⟨0, 0, t⟩)
    (fun t => Nat.zero_le _) (placed_isolated marks line)
  apply h

theorem fix_eq_rewrite (marks : List Text) (line : Text) :
  fix marks line = (Pattern.run (.ofEntries marks)).rewrite (doubled (.ofEntries marks)) line
  := by
  have hp := consuming_run (.ofEntries marks)
  have hplaced := Pattern.placed_matchesIn hp line
  rw [fix_eq_replaceMatches, isolated, Pattern.matchesWithout,
    replaceMatches_filter (fun t => t ++ t)
      (fun t => !(Pattern.longRun (.ofEntries marks)).occursIn t) hplaced,
    Pattern.replaceMatches_matchesIn hp]
  congr 1
  funext t
  cases ht : (Pattern.longRun (.ofEntries marks)).occursIn t <;> simp [doubled, ht]

/-- What is claimed is a run of marks. -/
theorem claim?_run_eq_some {n : Nat} (h : (Pattern.run k).claim? (doubled k) c s = some (n, t)) :
  (∀ d ∈ c :: s.take n, k.contains d = true) ∧ t = doubled k (c :: s.take n)
  := by
  obtain ⟨m, hm, heq⟩ := Option.map_eq_some_iff.mp h
  obtain ⟨hpos, hrun⟩ := Pattern.length?_stretch_eq_some_iff.mp hm
  obtain ⟨m, rfl⟩ := Nat.exists_eq_succ_of_ne_zero (Nat.ne_of_gt hpos)
  cases heq
  constructor
  · intro d hd
    apply Pattern.contains_of_mem_take (n := m + 1) (Nat.le_of_eq hrun)
    simpa using hd
  · rfl

theorem claim?_run_eq_none (h : (Pattern.run k).claim? (doubled k) c s = none) :
  ¬k.contains c = true
  := by
  have hlt := Pattern.length?_stretch_eq_none_iff.mp (Pattern.claim?_eq_none_iff.mp h)
  apply Pattern.runLength_eq_zero_iff.mp (Nat.lt_one_iff.mp hlt) c rfl

/-- A run of marks is long and stays, or it is a single mark. -/
theorem doubled_cases (hr : ∀ d ∈ c :: r, k.contains d = true) :
  (2 ≤ (c :: r).length ∧ doubled k (c :: r) = c :: r) ∨ (r = [] ∧ doubled k (c :: r) = [c, c])
  := by
  by_cases hlong : (Pattern.longRun k).occursIn (c :: r) = true
  · left
    exact ⟨(occursIn_longRun hr).mp hlong, if_pos hlong⟩
  · right
    obtain rfl : r = [] := by
      rw [occursIn_longRun hr, List.length_cons] at hlong
      apply List.length_eq_zero_iff.mp
      omega
    exact ⟨rfl, if_neg hlong⟩

/-- When the marks that stand alone are doubled, all are paired. -/
theorem paired_fix (marks : List Text) (line : Text) :
  Paired (.ofEntries marks) (fix marks line)
  := by
  rw [fix_eq_rewrite, Pattern.rewrite]
  induction line using joinPieces_induction
    ((Pattern.run (.ofEntries marks)).claim? (doubled (.ofEntries marks))) with
  | nil => apply paired_nil _
  | kept c s h ih => apply (paired_cons_iff (claim?_run_eq_none h)).mpr ih
  | taken c s n t h ih =>
      obtain ⟨hrun, rfl⟩ := claim?_run_eq_some h
      apply Paired.append _ ih
      rcases doubled_cases hrun with ⟨hlen, heq⟩ | ⟨-, heq⟩
      · rw [heq]
        apply paired_of_run hrun hlen
      · rw [heq]
        have hc := hrun c List.mem_cons_self
        apply paired_of_run (r := [c, c]) (by simpa using hc) (Nat.le_refl 2)

/-- Marks that stand alone are doubled one by one. -/
theorem reaches_fix (marks : List Text) (line : Text) :
  Reaches (Double (.ofEntries marks)) line (fix marks line)
  := by
  rw [fix_eq_rewrite]
  apply reaches_joinPieces
  intro c s n t h
  obtain ⟨hrun, rfl⟩ := claim?_run_eq_some h
  rcases doubled_cases hrun with ⟨-, heq⟩ | ⟨hnil, heq⟩
  · rw [heq]
  · rw [heq, hnil]
    apply Reaches.of_change (.double (hrun c List.mem_cons_self))

/-! ### Spans -/

theorem contains_of_mem_match {line : Text} :
  ∀ m ∈ (Pattern.run k).matchesIn line, ∀ d ∈ m.text, k.contains d = true
  := by
  apply Pattern.forall_mem_matchesIn (P := fun t => ∀ d ∈ t, k.contains d = true)
    (consuming_run k)
  intro c s n h d hd
  apply Pattern.contains_of_mem_take (n := n + 1) (s := c :: s) _ hd
  apply Nat.le_of_eq (Pattern.length?_stretch_eq_some_iff.mp h).2

/-- What stands alone is a single mark. -/
theorem length_text_of_mem_isolated {marks : List Text} {line : Text} {m : Match}
    (hm : m ∈ isolated marks line) :
  m.text.length = 1
  := by
  obtain ⟨hm, hlong⟩ := List.mem_filter.mp hm
  have hne := Pattern.text_ne_nil_of_mem_matchesIn (consuming_run (.ofEntries marks)) line m hm
  have hpos := List.length_pos_iff.mpr hne
  have hshort : ¬2 ≤ m.text.length := by
    rw [← occursIn_longRun (contains_of_mem_match m hm)]
    simpa using hlong
  omega

/-- The `i`-th mark that stands alone is written once more `i` columns further on, since each of
those before it has moved the rest of the line by one. -/
theorem fix_eq_foldl (marks : List Text) (line : Text) :
  fix marks line =
    (isolated marks line).zipIdx.foldl (fun line p => insertAt (p.1.offset + p.2) p.1.text line)
      line
  := by
  have hsingle : ∀ m ∈ isolated marks line, m.text.length = 1 := by
    intro m hm
    apply length_text_of_mem_isolated hm
  have h := Edit.applyShifted_inserts Match.offset hsingle 0 line
  simp only [Nat.one_mul] at h
  apply h

theorem lint_eq_map_ofMatch (marks : List Text) (number : Nat) (line : Text) :
  lint marks number line = (isolated marks line).map (Finding.ofMatch number .isolatedMark)
  := by
  apply List.map_congr_left
  intro m hm
  rw [Finding.ofMatch, length_text_of_mem_isolated hm]

theorem text_ne_nil_of_mem_isolated {marks : List Text} {line : Text} :
  ∀ m ∈ isolated marks line, m.text ≠ []
  := by
  intro m hm
  apply List.ne_nil_of_length_eq_add_one (length_text_of_mem_isolated hm)

/-- The spans that are reported are rewritten: the mark in each is written twice. -/
theorem fix_eq_rewriteSpans (marks : List Text) (number : Nat) (line : Text) :
  fix marks line = rewriteSpans (fun t => t ++ t) (lint marks number line) line
  := by
  rw [lint_eq_map_ofMatch, rewriteSpans_ofMatch _ _ _ (placed_isolated marks line),
    fix_eq_replaceMatches]

end JapaneseProse.Doubling
