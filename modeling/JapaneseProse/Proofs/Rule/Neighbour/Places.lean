import JapaneseProse.Proofs.Rule.Gap.Places
import JapaneseProse.Proofs.Rule.Neighbour
import JapaneseProse.Proofs.Text.Places
import Mathlib.Data.List.DropRight

/-!
# Runs of victims beside triggers

Victims are dropped in whole runs (`InRun`): those that a trigger stands directly in front of
(`isBehindTrigger`), or directly behind (`isBeforeTrigger`).  One pass from left to right finds
all of them, for no character is both a trigger and a victim.

* `inRun_iff`: the run of a character is what can be taken away on either side of it.
* `fixAfter_eq_dropWhere`, `fixBefore_eq_dropWhere`: the victims that are dropped are those of the
  runs beside triggers.
* `runs_beside_triggers_dropped`: so just these runs are missing from the line, no victim is left
  beside a trigger, and a second pass drops nothing.
-/

namespace JapaneseProse.Neighbour

open Gap (IsMaximalRun)
open Pattern (runLength)

variable {triggers victims : List Text} {beside : Text → Text → Bool} {c : Char}
variable {r s u v : Text}

/-- The character between `u` and `v` lies in a maximal run of marks, and what stands before the
run and behind it is as `beside` says. -/
def InRun (marks : List Text) (beside : Text → Text → Bool) (u : Text) (c : Char) (v : Text) :
    Prop :=
  ∃ before r r' behind, u = before ++ r ∧ v = r' ++ behind ∧
    IsMaximalRun marks before (r ++ c :: r') behind ∧ beside before behind = true

/-- A trigger stands directly in front of a run. -/
def isBehindTrigger (triggers : List Text) (before _behind : Text) : Bool :=
  before.getLast?.any (CharClass.ofEntries triggers).contains

/-- A trigger stands directly behind a run. -/
def isBeforeTrigger (triggers : List Text) (_before behind : Text) : Bool :=
  behind.head?.any (CharClass.ofEntries triggers).contains

/-! ### The run of a character -/

section

variable {p : Char → Bool}

theorem rdropWhile_append_of_forall (h : ∀ c ∈ r, p c = true) (u : Text) :
  (u ++ r).rdropWhile p = u.rdropWhile p
  := by
  rw [List.rdropWhile, List.reverse_append, List.dropWhile_append_of_pos, List.rdropWhile]
  intro c hc
  apply h c (List.mem_reverse.mp hc)

theorem rdropWhile_of_getLast? (h : ∀ c ∈ u.getLast?, ¬p c = true) :
  u.rdropWhile p = u
  := by
  apply List.rdropWhile_eq_self_iff.mpr
  intro hne
  apply h _ (List.getLast_mem_getLast? hne)

theorem dropWhile_of_head? (h : ∀ c ∈ v.head?, ¬p c = true) :
  v.dropWhile p = v
  := by
  cases v with
  | nil => rfl
  | cons c v => apply List.dropWhile_cons_of_neg (h c rfl)

end

/-- The run of a mark is what can be taken away on either side of it. -/
theorem inRun_iff {marks : List Text} :
  InRun marks beside u c v ↔
    (CharClass.ofEntries marks).contains c = true ∧
      beside (u.rdropWhile (CharClass.ofEntries marks).contains)
        (v.dropWhile (CharClass.ofEntries marks).contains) = true
  := by
  constructor
  · rintro ⟨before, r, r', behind, rfl, rfl, hrun, hbeside⟩
    obtain ⟨hr, hr'⟩ := List.forall_mem_append.mp hrun.contains
    obtain ⟨hc, hr'⟩ := List.forall_mem_cons.mp hr'
    rw [rdropWhile_append_of_forall hr, rdropWhile_of_getLast? hrun.not_contains_before,
      List.dropWhile_append_of_pos hr', dropWhile_of_head? hrun.not_contains_behind]
    exact ⟨hc, hbeside⟩
  · rintro ⟨hc, hbeside⟩
    refine ⟨_, u.rtakeWhile _, v.takeWhile _, _, List.rdropWhile_append_rtakeWhile.symm,
      List.takeWhile_append_dropWhile.symm, ⟨by simp, ?_, ?_, ?_⟩, hbeside⟩
    · rw [List.forall_mem_append, List.forall_mem_cons]
      exact ⟨fun d => List.mem_rtakeWhile_imp, hc, fun d => List.mem_takeWhile_imp⟩
    · intro d hd
      obtain ⟨hne, rfl⟩ := List.mem_getLast?_eq_getLast hd
      apply List.rdropWhile_last_not _ u hne
    · intro d hd
      rw [← Pattern.drop_runLength] at hd
      apply Pattern.not_contains_of_mem_head?_drop hd

instance (marks : List Text) (beside : Text → Text → Bool) (u : Text) (c : Char) (v : Text) :
    Decidable (InRun marks beside u c v) :=
  decidable_of_iff _ inRun_iff.symm

/-- What is claimed is two stretches, and the rest of the line comes behind them. -/
theorem cons_eq_append_drop {xs ys : Text} {n : Nat} (h : c :: s.take n = xs ++ ys) :
  c :: s = xs ++ (ys ++ s.drop n)
  := by
  rw [← List.append_assoc, ← h, List.cons_append, List.take_append_drop]

theorem not_inRun (h : ¬(CharClass.ofEntries victims).contains c = true) :
  ¬InRun victims beside u c v
  := fun hrun => h (inRun_iff.mp hrun).1

/-! ### Victims behind a trigger -/

/-- Where no pair is found, no victim is to be dropped behind the first character, unless that is
to be dropped itself. -/
theorem not_inRun_of_pairAt?_eq_none {keep : Text → Text → Text}
    (h : pairAt? (.ofEntries triggers) (.ofEntries victims) keep c s = none)
    (hc : ∀ v, ¬InRun victims (isBehindTrigger triggers) u c v) :
  ∀ d ∈ s.head?, ∀ v, ¬InRun victims (isBehindTrigger triggers) (u ++ [c]) d v
  := by
  intro d hd v hrun
  obtain ⟨hvictim, hbehind⟩ := inRun_iff.mp hrun
  by_cases hcv : (CharClass.ofEntries victims).contains c = true
  · rw [List.rdropWhile_concat_pos _ u c hcv] at hbehind
    apply hc v (inRun_iff.mpr ⟨hcv, hbehind⟩)
  · rw [List.rdropWhile_concat_neg _ u c hcv, isBehindTrigger, List.getLast?_concat] at hbehind
    apply apart_of_length?_eq_none (pairAt?_eq_none_iff.mp h) d hd ⟨hbehind, hvictim⟩

section

variable (hdisjoint : ∀ c, (CharClass.ofEntries triggers).contains c = true →
  ¬(CharClass.ofEntries victims).contains c = true)

include hdisjoint

theorem dropWhere_triggers_append {xs : Text}
    (hxs : ∀ x ∈ xs, (CharClass.ofEntries triggers).contains x = true) (u t : Text) :
  dropWhere (InRun victims beside) u (xs ++ t) = xs ++ dropWhere (InRun victims beside) (u ++ xs) t
  := by
  apply dropWhere_append_of_neg
  rintro r x r' rfl
  apply not_inRun (hdisjoint x (hxs x (by simp)))

/-- A stretch of triggers stays, and the victims behind it are dropped. -/
theorem dropWhere_isBehindTrigger {xs ys : Text} (hne : xs ≠ [])
    (hxs : ∀ x ∈ xs, (CharClass.ofEntries triggers).contains x = true)
    (hys : ∀ y ∈ ys, (CharClass.ofEntries victims).contains y = true) (u s : Text) :
  dropWhere (InRun victims (isBehindTrigger triggers)) u (xs ++ (ys ++ s)) =
    xs ++ dropWhere (InRun victims (isBehindTrigger triggers)) (u ++ xs ++ ys) s
  := by
  obtain ⟨front, x, rfl⟩ := (List.eq_nil_or_concat xs).resolve_left hne
  rw [List.concat_eq_append] at hxs ⊢
  have hx := hxs x (by simp)
  rw [dropWhere_triggers_append hdisjoint hxs, dropWhere_append_of_pos]
  rintro r y r' rfl
  obtain ⟨hr, hy⟩ := List.forall_mem_append.mp hys
  apply inRun_iff.mpr
  rw [rdropWhile_append_of_forall hr, ← List.append_assoc,
    List.rdropWhile_concat_neg _ _ x (hdisjoint x hx), isBehindTrigger, List.getLast?_concat]
  exact ⟨hy y List.mem_cons_self, hx⟩

/-- The victims that are dropped are those of the runs directly behind a trigger. -/
theorem fixAfter_eq_dropWhere (line : Text) :
  fixAfter triggers victims line = dropWhere (InRun victims (isBehindTrigger triggers)) [] line
  := by
  have hfrom : ∀ u, (∀ c ∈ line.head?, ∀ v, ¬InRun victims (isBehindTrigger triggers) u c v) →
      fixAfter triggers victims line =
        dropWhere (InRun victims (isBehindTrigger triggers)) u line := by
    rw [fixAfter, substitute_eq]
    induction line using joinPieces_induction
        (pairAt? (.ofEntries triggers) (.ofEntries victims) fun kept _ => kept) with
    | nil =>
        intro u _
        rfl
    | kept c s h ih =>
        intro u hu
        have hc := hu c rfl
        rw [dropWhere_cons_of_neg (hc s), ih (u ++ [c]) (not_inRun_of_pairAt?_eq_none h hc)]
    | taken c s n t h ih =>
        intro u _
        obtain ⟨xs, ys, hne, -, hsplit, ht, hxs, hys, hend⟩ := pairAt?_eq_some h
        rw [cons_eq_append_drop hsplit, dropWhere_isBehindTrigger hdisjoint hne hxs hys, ht,
          ih (u ++ xs ++ ys) fun d hd v => not_inRun (hend d hd)]
  apply hfrom
  intro c _ v hrun
  have hbehind := (inRun_iff.mp hrun).2
  rw [List.rdropWhile_nil] at hbehind
  cases hbehind

/-! ### Victims in front of a trigger -/

omit hdisjoint in
/-- Where no pair is found, the first character is not to be dropped. -/
theorem not_inRun_isBeforeTrigger {keep : Text → Text → Text}
    (h : pairAt? (.ofEntries victims) (.ofEntries triggers) keep c s = none) :
  ¬InRun victims (isBeforeTrigger triggers) u c s
  := by
  intro hrun
  obtain ⟨hc, hbefore⟩ := inRun_iff.mp hrun
  have hzero := length?_adjacent_eq_none_iff.mp (pairAt?_eq_none_iff.mp h)
    (runLength (.ofEntries victims) (c :: s))
    (by rw [Pattern.runLength_cons_of_pos s hc]; omega) (Nat.le_refl _)
  rw [Pattern.drop_runLength, List.dropWhile_cons_of_pos hc] at hzero
  obtain ⟨d, hd, htrigger⟩ := (Option.any_eq_true _ _).mp hbefore
  apply Pattern.runLength_eq_zero_iff.mp hzero d hd htrigger

/-- Victims that a trigger stands behind are dropped, and the triggers stay. -/
theorem dropWhere_isBeforeTrigger {xs ys : Text} (hne : ys ≠ [])
    (hxs : ∀ x ∈ xs, (CharClass.ofEntries victims).contains x = true)
    (hys : ∀ y ∈ ys, (CharClass.ofEntries triggers).contains y = true) (u s : Text) :
  dropWhere (InRun victims (isBeforeTrigger triggers)) u (xs ++ (ys ++ s)) =
    ys ++ dropWhere (InRun victims (isBeforeTrigger triggers)) (u ++ xs ++ ys) s
  := by
  obtain ⟨y, ys, rfl⟩ := List.exists_cons_of_ne_nil hne
  have hy := hys y List.mem_cons_self
  rw [dropWhere_append_of_pos, dropWhere_triggers_append hdisjoint hys]
  rintro r x r' rfl
  obtain ⟨-, hr'⟩ := List.forall_mem_append.mp hxs
  obtain ⟨hx, hr'⟩ := List.forall_mem_cons.mp hr'
  apply inRun_iff.mpr
  rw [List.dropWhile_append_of_pos hr', List.cons_append,
    List.dropWhile_cons_of_neg (hdisjoint y hy)]
  exact ⟨hx, hy⟩

/-- The victims that are dropped are those of the runs directly in front of a trigger. -/
theorem fixBefore_eq_dropWhere (line : Text) :
  fixBefore triggers victims line = dropWhere (InRun victims (isBeforeTrigger triggers)) [] line
  := by
  have hfrom : ∀ u, fixBefore triggers victims line =
      dropWhere (InRun victims (isBeforeTrigger triggers)) u line := by
    rw [fixBefore, substitute_eq]
    induction line using joinPieces_induction
        (pairAt? (.ofEntries victims) (.ofEntries triggers) fun _ kept => kept) with
    | nil =>
        intro u
        rfl
    | kept c s h ih =>
        intro u
        rw [dropWhere_cons_of_neg (not_inRun_isBeforeTrigger h), ih (u ++ [c])]
    | taken c s n t h ih =>
        intro u
        obtain ⟨xs, ys, -, hne, hsplit, ht, hxs, hys, -⟩ := pairAt?_eq_some h
        rw [cons_eq_append_drop hsplit, dropWhere_isBeforeTrigger hdisjoint hne hxs hys, ht,
          ih (u ++ xs ++ ys)]
  apply hfrom

end

/-- If no character is both a trigger and a victim, the victims that are missing afterwards are
those of the runs directly behind a trigger, or directly in front of one, and everything else stays
in its order.  No victim is left beside a trigger on that side, and a second pass drops nothing. -/
theorem runs_beside_triggers_dropped (triggers victims : List Text)
    (hdisjoint : ∀ c, (CharClass.ofEntries triggers).contains c = true →
      ¬(CharClass.ofEntries victims).contains c = true)
    (line : Text) :
  (fixAfter triggers victims line =
      dropWhere (InRun victims (isBehindTrigger triggers)) [] line ∧
    (fixAfter triggers victims line).IsChain (Apart (.ofEntries triggers) (.ofEntries victims)) ∧
    fixAfter triggers victims (fixAfter triggers victims line) =
      fixAfter triggers victims line) ∧
  fixBefore triggers victims line =
      dropWhere (InRun victims (isBeforeTrigger triggers)) [] line ∧
    (fixBefore triggers victims line).IsChain (Apart (.ofEntries victims) (.ofEntries triggers)) ∧
    fixBefore triggers victims (fixBefore triggers victims line) =
      fixBefore triggers victims line
  := by
  have hafter := isChain_fixAfter hdisjoint line
  have hbefore := isChain_fixBefore hdisjoint line
  exact ⟨⟨fixAfter_eq_dropWhere hdisjoint line, hafter, fixAfter_of_isChain hafter⟩,
    fixBefore_eq_dropWhere hdisjoint line, hbefore, fixBefore_of_isChain hbefore⟩

/-- Triggers and victims take turns, and each run of victims has a trigger on both sides. -/
theorem runs_beside_triggers_dropped_in_turns :
  let triggers : List Text := [['！'], ['？', '」']]
  let victims : List Text := [['、', '。']]
  let line : Text := ['、', '！', '。', '、', '？', '。', '」', 'あ', '、', '」', '、']
  (∀ c, (CharClass.ofEntries triggers).contains c = true →
    ¬(CharClass.ofEntries victims).contains c = true) ∧
  fixAfter triggers victims line = ['、', '！', '？', '」', 'あ', '、', '」'] ∧
  fixBefore triggers victims line = ['！', '？', '」', 'あ', '」', '、']
  := by
  intro triggers victims line
  have hdisjoint : ∀ c, (CharClass.ofEntries triggers).contains c = true →
      ¬(CharClass.ofEntries victims).contains c = true := by
    have hall : (triggers.flatten.all fun c => !(CharClass.ofEntries victims).contains c) = true := by
      decide
    intro c hc hvictim
    have hmem := List.mem_flatten.mpr ((CharClass.contains_ofEntries triggers c).mp hc)
    have hnot := List.all_eq_true.mp hall c hmem
    rw [hvictim] at hnot
    cases hnot
  obtain ⟨⟨hafter, -⟩, hbefore, -⟩ := runs_beside_triggers_dropped triggers victims hdisjoint line
  exact ⟨hdisjoint, hafter.trans (by decide), hbefore.trans (by decide)⟩

end JapaneseProse.Neighbour
