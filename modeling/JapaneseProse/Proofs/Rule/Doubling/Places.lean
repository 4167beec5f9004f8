import JapaneseProse.Proofs.Rule.Doubling
import JapaneseProse.Proofs.Text.Places

/-!
# Marks that stand alone

A mark stands alone if the characters in front of it and behind it are no marks (`StandsAlone`).
These marks are written twice in the line, and everything else once.

* `rewriteEach_run_append`: in a run of two marks or more none stands alone, so the run stays.
* `fix_eq_rewriteEach`: the marks that are doubled are those that stand alone.
* `length_fix`: each of them is a finding, and makes the line longer by one.
* `marks_alone_doubled`: so just the marks that stand alone are doubled, none is left that stands
  alone, and a second pass doubles nothing.
-/

namespace JapaneseProse.Doubling

variable {k : CharClass} {c : Char} {r s t : Text} {n : Nat}

/-- The character is a mark, and those in front of it and behind it are none. -/
def StandsAlone (k : CharClass) (u : Text) (c : Char) (v : Text) : Prop :=
  k.contains c = true ∧ (∀ b ∈ u.getLast?, ¬k.contains b = true) ∧
    ∀ d ∈ v.head?, ¬k.contains d = true

instance (k : CharClass) (u : Text) (c : Char) (v : Text) : Decidable (StandsAlone k u c v) :=
  have : Decidable (∀ b ∈ u.getLast?, ¬k.contains b = true) := Option.decidableForallMem u.getLast?
  have : Decidable (∀ d ∈ v.head?, ¬k.contains d = true) := Option.decidableForallMem v.head?
  inferInstanceAs (Decidable (_ ∧ _ ∧ _))

/-- A character twice if it is a mark that stands alone, and once otherwise. -/
def doubleAlone (k : CharClass) (u : Text) (c : Char) (v : Text) : Text :=
  if StandsAlone k u c v then [c, c] else [c]

/-- In a run of two marks or more none stands alone. -/
theorem not_standsAlone (hrun : ∀ d ∈ r ++ c :: s, k.contains d = true)
    (hlen : 2 ≤ (r ++ c :: s).length) (u t : Text) :
  ¬StandsAlone k (u ++ r) c (s ++ t)
  := by
  rintro ⟨-, hbefore, hbehind⟩
  cases s with
  | cons d s => apply hbehind d rfl (hrun d (by simp))
  | nil =>
      cases r using List.reverseRecOn with
      | nil => simp at hlen
      | append_singleton r b => apply hbefore b (by simp) (hrun b (by simp))

theorem rewriteEach_run_append (hrun : ∀ d ∈ r, k.contains d = true) (hlen : 2 ≤ r.length)
    (u t : Text) :
  rewriteEach (doubleAlone k) u (r ++ t) = r ++ rewriteEach (doubleAlone k) (u ++ r) t
  := by
  rw [rewriteEach_append_of_forall (g := fun c => [c]), List.flatMap_singleton']
  rintro r₁ c r₂ rfl
  apply if_neg (not_standsAlone hrun hlen u t)

/-- Behind a run that is claimed stands no mark. -/
theorem not_contains_behind_claim? {f : Text → Text}
    (h : (Pattern.run k).claim? f c s = some (n, t)) :
  ∀ d ∈ (s.drop n).head?, ¬k.contains d = true
  := by
  obtain ⟨m, hm, heq⟩ := Option.map_eq_some_iff.mp h
  obtain ⟨hpos, hrun⟩ := Pattern.length?_stretch_eq_some_iff.mp hm
  obtain ⟨m, rfl⟩ := Nat.exists_eq_add_one_of_ne_zero (Nat.ne_of_gt hpos)
  cases heq
  have hdrop : (c :: s).drop (m + 1) = s.drop m := List.drop_succ_cons
  rw [Nat.add_sub_cancel, ← hdrop, hrun]
  intro d hd
  apply Pattern.not_contains_of_mem_head?_drop hd

/-- The marks that are doubled are those that stand alone. -/
theorem fix_eq_rewriteEach (marks : List Text) (line : Text) :
  fix marks line = rewriteEach (doubleAlone (.ofEntries marks)) [] line
  := by
  have hfrom : ∀ u, (∀ c ∈ line.head?, (CharClass.ofEntries marks).contains c = true →
      ∀ b ∈ u.getLast?, ¬(CharClass.ofEntries marks).contains b = true) →
      fix marks line = rewriteEach (doubleAlone (.ofEntries marks)) u line := by
    rw [fix_eq_rewrite, Pattern.rewrite]
    induction line using joinPieces_induction
        ((Pattern.run (.ofEntries marks)).claim? (doubled (.ofEntries marks))) with
    | nil =>
        intro u _
        rfl
    | kept c s h ih =>
        intro u _
        have hc := claim?_run_eq_none h
        have hstays : doubleAlone (.ofEntries marks) u c s = [c] := if_neg fun halone => hc halone.1
        rw [rewriteEach, hstays, ih]
        · rfl
        · intro d _ _ b hb
          rw [List.getLast?_concat] at hb
          obtain rfl := Option.mem_some.mp hb
          exact hc
    | taken c s n t h ih =>
        intro u hu
        have hbehind := not_contains_behind_claim? h
        obtain ⟨hrun, rfl⟩ := claim?_run_eq_some h
        have hline : c :: s = c :: s.take n ++ s.drop n := by
          rw [List.cons_append, List.take_append_drop]
        have hrest := ih (u ++ c :: s.take n) fun d hd hmark => absurd hmark (hbehind d hd)
        rcases doubled_cases hrun with ⟨hlen, heq⟩ | ⟨hnil, heq⟩
        · rw [heq, hrest, hline, rewriteEach_run_append hrun hlen]
        · have hc := hrun c List.mem_cons_self
          rw [hnil, List.singleton_append] at hline
          have htwice : doubleAlone (.ofEntries marks) u c (s.drop n) = [c, c] :=
            if_pos ⟨hc, hu c rfl hc, hbehind⟩
          rw [heq, hrest, hline, rewriteEach, htwice, hnil]
  apply hfrom
  intro c _ _ b hb
  cases hb

/-- Each mark that stands alone is a finding, and makes the line longer by one. -/
theorem length_fix (marks : List Text) (number : Nat) (line : Text) :
  (fix marks line).length = line.length + (lint marks number line).length
  := by
  have hsingle : ∀ p ∈ (isolated marks line).zipIdx, p.1.text.length = 1 := by
    intro p hp
    apply length_text_of_mem_isolated (List.fst_mem_of_mem_zipIdx hp)
  rw [fix_eq_foldl, length_foldl_insertAt _ hsingle, List.length_zipIdx, Nat.one_mul, lint,
    List.length_map]

/-- The marks that stand alone are written twice, and every other character once, in their order.
Then no mark stands alone, a second pass doubles nothing, and the line has become longer by the
number of findings. -/
theorem marks_alone_doubled (marks : List Text) (number : Nat) (line : Text) :
  fix marks line = rewriteEach (doubleAlone (.ofEntries marks)) [] line ∧
    Paired (.ofEntries marks) (fix marks line) ∧
    fix marks (fix marks line) = fix marks line ∧
    (fix marks line).length = line.length + (lint marks number line).length
  := by
  have hpaired := paired_fix marks line
  exact ⟨fix_eq_rewriteEach marks line, hpaired, fix_of_paired hpaired,
    length_fix marks number line⟩

end JapaneseProse.Doubling
