import JapaneseProse.Proofs.Text.Spans
import JapaneseProse.Rule.Neighbour

/-!
# Marks beside other marks

* `lintAfter_eq_nil_iff`, `lintBefore_eq_nil_iff`: nothing is found if and only if no
  character of the one class is directly followed by one of the other.
* `isChain_fixAfter`, `isChain_fixBefore`: if no character is of both classes, this is so when
  the victims are dropped.
* `reaches_fixAfter`, `reaches_fixBefore`: the victims are dropped one by one, each beside a
  trigger.
* `fixAfter_eq_rewriteSpans`, `fixBefore_eq_rewriteSpans`: they are dropped from the spans that are
  reported.
-/

namespace JapaneseProse.Neighbour

open Pattern (runLength)

variable {first second : CharClass} {keep : Text → Text → Text} {c : Char} {s t : Text} {n : Nat}

/-- The characters are not one of the first class and then one of the second. -/
def Apart (first second : CharClass) (c d : Char) : Prop :=
  ¬(first.contains c = true ∧ second.contains d = true)

/-- A victim is dropped behind a trigger. -/
inductive DropAfter (triggers victims : CharClass) : Text → Text → Prop where
  | drop {c d : Char} (hc : triggers.contains c = true) (hd : victims.contains d = true) :
      DropAfter triggers victims [c, d] [c]

/-- A victim is dropped in front of a trigger. -/
inductive DropBefore (triggers victims : CharClass) : Text → Text → Prop where
  | drop {c d : Char} (hc : triggers.contains c = true) (hd : victims.contains d = true) :
      DropBefore triggers victims [d, c] [c]

/-! ### Finding pairs of stretches -/

theorem length?_adjacent_eq_none_iff :
  (adjacent first second).length? s = none ↔
    ∀ n, 0 < n → n ≤ runLength first s → runLength second (s.drop n) = 0
  := by
  rw [Pattern.length?_eq, List.head?_eq_none_iff]
  constructor
  · intro h n hpos hn
    by_contra hne
    have hmem : n + 1 ∈ (adjacent first second).lengths s := by
      apply List.mem_flatMap.mpr
      use n, Pattern.mem_countDown.mpr ⟨hpos, hn⟩
      apply List.mem_map.mpr
      use 1, Pattern.mem_countDown.mpr ⟨Nat.le_refl 1, Nat.pos_of_ne_zero hne⟩
    rw [h] at hmem
    apply List.not_mem_nil hmem
  · intro h
    apply List.eq_nil_iff_forall_not_mem.mpr
    intro i hi
    obtain ⟨n, hn, hi⟩ := List.mem_flatMap.mp hi
    obtain ⟨m, hm, rfl⟩ := List.mem_map.mp hi
    obtain ⟨hpos, hle⟩ := Pattern.mem_countDown.mp hn
    obtain ⟨hpos', hle'⟩ := Pattern.mem_countDown.mp hm
    have hzero := h n hpos hle
    change m ≤ runLength second (s.drop n) at hle'
    omega

theorem apart_of_length?_eq_none (h : (adjacent first second).length? (c :: s) = none) :
  ∀ d ∈ s.head?, Apart first second c d
  := by
  rintro d hd ⟨hc, hsecond⟩
  have hzero := length?_adjacent_eq_none_iff.mp h 1 Nat.one_pos
    (by rw [Pattern.runLength_cons_of_pos s hc]; omega)
  apply Pattern.runLength_eq_zero_iff.mp hzero d hd hsecond

/-- Nothing is found if and only if no pair of characters stands next to each other. -/
theorem matchesIn_adjacent_eq_nil_iff {line : Text} :
  (adjacent first second).matchesIn line = [] ↔ line.IsChain (Apart first second)
  := by
  apply Pattern.matchesIn_eq_nil_iff_isChain rfl
  intro c s hs
  constructor
  · exact apart_of_length?_eq_none
  · intro h
    apply length?_adjacent_eq_none_iff.mpr
    intro n hpos hn
    by_cases hc : first.contains c = true
    · rw [Pattern.runLength_cons_of_pos s hc] at hn
      obtain ⟨n, rfl⟩ := Nat.exists_eq_succ_of_ne_zero (Nat.ne_of_gt hpos)
      -- The pair begins with `c`, or it begins in `s`.
      cases n with
      | zero =>
          apply Pattern.runLength_eq_zero_iff.mpr
          intro d hd hsecond
          apply h d hd ⟨hc, hsecond⟩
      | succ n =>
          apply length?_adjacent_eq_none_iff.mp hs (n + 1) (Nat.succ_pos n)
          apply Nat.le_of_succ_le_succ hn
    · rw [Pattern.runLength_cons_of_neg s hc] at hn
      omega

theorem lintAfter_eq_nil_iff {triggers victims : List Text} {number : Nat} {line : Text} :
  lintAfter triggers victims number line = [] ↔
    line.IsChain (Apart (.ofEntries triggers) (.ofEntries victims))
  := by
  rw [lintAfter, List.map_eq_nil_iff, matchesIn_adjacent_eq_nil_iff]

theorem lintBefore_eq_nil_iff {triggers victims : List Text} {number : Nat} {line : Text} :
  lintBefore triggers victims number line = [] ↔
    line.IsChain (Apart (.ofEntries victims) (.ofEntries triggers))
  := by
  rw [lintBefore, List.map_eq_nil_iff, matchesIn_adjacent_eq_nil_iff]

/-! ### Replacing pairs of stretches -/

theorem stretches?_eq_some {m : Nat} (h : stretches? first second s = some (n, m)) :
  (0 < n ∧ n ≤ runLength first s) ∧ 0 < m ∧ m = runLength second (s.drop n)
  := by
  obtain ⟨w, hw, h⟩ := List.exists_of_findSome?_eq_some h
  obtain ⟨m, hm, heq⟩ := Option.map_eq_some_iff.mp h
  rw [Pattern.ways_eq] at hw
  obtain ⟨i, hi, rfl⟩ := List.mem_map.mp hw
  cases heq
  exact ⟨Pattern.mem_countDown.mp hi, Pattern.length?_stretch_eq_some_iff.mp hm⟩

/-- What is claimed is a stretch of the first class and one of the second, which ends in
front of a character that is not of the second class. -/
theorem pairAt?_eq_some (h : pairAt? first second keep c s = some (n, t)) :
  ∃ xs ys, xs ≠ [] ∧ ys ≠ [] ∧ c :: s.take n = xs ++ ys ∧ t = keep xs ys ∧
    (∀ x ∈ xs, first.contains x = true) ∧ (∀ y ∈ ys, second.contains y = true) ∧
    ∀ d ∈ (s.drop n).head?, ¬second.contains d = true
  := by
  obtain ⟨⟨i, m⟩, hstretches, heq⟩ := Option.map_eq_some_iff.mp h
  obtain ⟨⟨hi, hirun⟩, hm, hmrun⟩ := stretches?_eq_some hstretches
  obtain ⟨i, rfl⟩ := Nat.exists_eq_succ_of_ne_zero (Nat.ne_of_gt hi)
  have hn : n = i + m := by
    have := (Prod.mk.inj heq).1
    omega
  subst hn
  change m = runLength second (s.drop i) at hmrun
  use c :: s.take i, (s.drop i).take m
  and_intros
  · apply List.cons_ne_nil
  · rw [Ne, List.take_eq_nil_iff]
    rintro (rfl | hnil)
    · apply Nat.lt_irrefl 0 hm
    · rw [hnil, Pattern.runLength_nil] at hmrun
      omega
  · rw [List.cons_append, List.take_add]
  · apply (Prod.mk.inj heq).2.symm
  · intro x hx
    apply Pattern.contains_of_mem_take hirun hx
  · intro y hy
    apply Pattern.contains_of_mem_take (Nat.le_of_eq hmrun) hy
  · intro d hd
    rw [← List.drop_drop, hmrun] at hd
    apply Pattern.not_contains_of_mem_head?_drop hd

/-- Where nothing is found, nothing is replaced. -/
theorem substitute_of_isChain {line : Text} (h : line.IsChain (Apart first second)) :
  substitute first second keep line = line
  := by
  rw [substitute_eq, joinPieces_pieces_of_none _ line.length, List.take_length, List.drop_length]
  · simp [joinPieces]
  · intro i d r _ hr
    rw [pairAt?_eq_none_iff]
    apply Pattern.matchesIn_eq_nil_iff.mp (matchesIn_adjacent_eq_nil_iff.mpr h)
    rw [← hr]
    apply List.drop_suffix

theorem isChain_apart_of_forall (h : ∀ d ∈ s, ¬second.contains d = true) :
  s.IsChain (Apart first second)
  := by
  apply List.isChain_iff_forall_rel_of_append_cons_cons.mpr
  rintro c d u v rfl ⟨-, hd⟩
  apply h d (by simp) hd

/-! ### Dropping victims behind a trigger -/

section

variable {triggers victims : List Text} {line : Text}

theorem fixAfter_of_isChain
    (h : line.IsChain (Apart (.ofEntries triggers) (.ofEntries victims))) :
  fixAfter triggers victims line = line
  := substitute_of_isChain h

/-- When victims behind triggers are dropped, none is left. -/
theorem isChain_fixAfter
    (hdisjoint : ∀ c, (CharClass.ofEntries triggers).contains c = true →
      ¬(CharClass.ofEntries victims).contains c = true)
    (line : Text) :
  (fixAfter triggers victims line).IsChain (Apart (.ofEntries triggers) (.ofEntries victims))
  := by
  rw [fixAfter, substitute_eq]
  have hhead := head?_joinPieces
    (pairAt? (.ofEntries triggers) (.ofEntries victims) fun kept _ => kept)
    (by
      intro c s n t h
      obtain ⟨xs, ys, hxs, -, hsplit, rfl, -⟩ := pairAt?_eq_some h
      obtain ⟨x, xs, rfl⟩ := List.exists_cons_of_ne_nil hxs
      rw [(List.cons.inj hsplit).1]
      rfl)
  apply isChain_joinPieces
  · intro c s h
    rw [hhead]
    apply apart_of_length?_eq_none (pairAt?_eq_none_iff.mp h)
  · intro c s n t h
    obtain ⟨xs, ys, -, -, -, rfl, hxs, -, hend⟩ := pairAt?_eq_some h
    constructor
    · apply isChain_apart_of_forall
      intro x hx
      apply hdisjoint x (hxs x hx)
    · rintro a - d hd ⟨-, hvictim⟩
      rw [hhead] at hd
      apply hend d hd hvictim

/-- Victims behind triggers are dropped one by one. -/
theorem reaches_fixAfter (triggers victims : List Text) (line : Text) :
  Reaches (DropAfter (.ofEntries triggers) (.ofEntries victims)) line
    (fixAfter triggers victims line)
  := by
  rw [fixAfter, substitute_eq]
  apply reaches_joinPieces
  intro c s n t h
  obtain ⟨xs, ys, hne, -, hsplit, ht, hxs, hys, -⟩ := pairAt?_eq_some h
  obtain ⟨front, x, rfl⟩ := (List.eq_nil_or_concat xs).resolve_left hne
  rw [hsplit, ht, List.concat_eq_append, List.append_assoc]
  apply Reaches.append_left
  apply Reaches.drop_behind
  intro y hy
  apply DropAfter.drop (hxs x (by simp)) (hys y hy)

/-! ### Dropping victims in front of a trigger -/

theorem fixBefore_of_isChain
    (h : line.IsChain (Apart (.ofEntries victims) (.ofEntries triggers))) :
  fixBefore triggers victims line = line
  := substitute_of_isChain h

/-- When victims in front of triggers are dropped, none is left. -/
theorem isChain_fixBefore
    (hdisjoint : ∀ c, (CharClass.ofEntries triggers).contains c = true →
      ¬(CharClass.ofEntries victims).contains c = true)
    (line : Text) :
  (fixBefore triggers victims line).IsChain (Apart (.ofEntries victims) (.ofEntries triggers))
  := by
  rw [fixBefore, substitute_eq]
  apply isChain_joinPieces
  · -- Behind a victim that is kept nothing is dropped, so the next character is the old one.
    rintro c s h d hd ⟨hc, htrigger⟩
    have hnone := pairAt?_eq_none_iff.mp h
    have hs : (adjacent (.ofEntries victims) (.ofEntries triggers)).length? s = none := by
      apply Pattern.length?_drop_eq_none (n := 1) _ hnone
      change 1 ≤ runLength _ (c :: s)
      rw [Pattern.runLength_cons_of_pos s hc]
      omega
    cases s with
    | nil => simp [joinPieces] at hd
    | cons e s =>
        rw [joinPieces_cons_of_none _ (pairAt?_eq_none_iff.mpr hs)] at hd
        apply apart_of_length?_eq_none hnone d hd ⟨hc, htrigger⟩
  · intro c s n t h
    obtain ⟨xs, ys, -, -, -, rfl, -, hys, -⟩ := pairAt?_eq_some h
    constructor
    · apply List.isChain_iff_forall_rel_of_append_cons_cons.mpr
      rintro a d u v rfl ⟨hvictim, -⟩
      apply hdisjoint a (hys a (by simp)) hvictim
    · rintro a ha d - ⟨hvictim, -⟩
      apply hdisjoint a (hys a (List.mem_of_mem_getLast? ha)) hvictim

/-- Victims in front of triggers are dropped one by one. -/
theorem reaches_fixBefore (triggers victims : List Text) (line : Text) :
  Reaches (DropBefore (.ofEntries triggers) (.ofEntries victims)) line
    (fixBefore triggers victims line)
  := by
  rw [fixBefore, substitute_eq]
  apply reaches_joinPieces
  intro c s n t h
  obtain ⟨xs, ys, -, hne, hsplit, rfl, hxs, hys, -⟩ := pairAt?_eq_some h
  obtain ⟨y, ys, rfl⟩ := List.exists_cons_of_ne_nil hne
  have hassoc : xs ++ y :: ys = (xs ++ [y]) ++ ys := by simp
  rw [hsplit, hassoc]
  have hdrop : Reaches (DropBefore (.ofEntries triggers) (.ofEntries victims)) (xs ++ [y]) [y] := by
    apply Reaches.drop_before
    intro x hx
    apply DropBefore.drop (hys y (by simp)) (hxs x hx)
  apply hdrop.append_right ys

/-! ### Spans -/

theorem consuming_adjacent (first second : CharClass) :
  (adjacent first second).Consuming
  := by
  intro s n h
  rw [Pattern.length?_eq] at h
  obtain ⟨i, hi, h⟩ := List.mem_flatMap.mp (List.mem_of_head? h)
  obtain ⟨j, -, rfl⟩ := List.mem_map.mp h
  apply Nat.lt_of_lt_of_le (Pattern.mem_countDown.mp hi).1 (Nat.le_add_right i j)

/-- If `f` sees to the whole pair what `keep` makes of its stretches, replacing the pairs is
replacing the matches. -/
theorem substitute_eq_replaceMatches {f : Text → Text}
    (hf : ∀ xs ys : Text, (∀ x ∈ xs, first.contains x = true) →
      (∀ y ∈ ys, second.contains y = true) → f (xs ++ ys) = keep xs ys) (line : Text) :
  substitute first second keep line =
    replaceMatches f 0 ((adjacent first second).matchesIn line) line
  := by
  rw [substitute_eq, Pattern.replaceMatches_matchesIn (consuming_adjacent first second),
    Pattern.rewrite]
  congr 2
  funext c s
  rw [Pattern.claim?, length?_adjacent, Option.map_map, pairAt?]
  apply Option.map_congr
  rintro ⟨n, m⟩ h
  obtain ⟨⟨-, hn⟩, -, hm⟩ := stretches?_eq_some h
  have hcut : (c :: s).take (n + m) = (c :: s).take n ++ ((c :: s).drop n).take m := List.take_add
  have hkeep := hf ((c :: s).take n) (((c :: s).drop n).take m)
    (fun x hx => Pattern.contains_of_mem_take hn hx)
    (fun y hy => Pattern.contains_of_mem_take (Nat.le_of_eq hm) hy)
  rw [Function.comp_apply, hcut, hkeep]

/-- The characters of a text that are no victims. -/
def withoutVictims (victims : List Text) (s : Text) : Text :=
  s.filter fun c => c ∉ victims.flatten

theorem withoutVictims_of_victims (h : ∀ c ∈ s, (CharClass.ofEntries victims).contains c = true) :
  withoutVictims victims s = []
  := by
  apply List.filter_eq_nil_iff.mpr
  intro c hc
  simpa [CharClass.contains_ofEntries] using h c hc

theorem withoutVictims_of_triggers
    (hdisjoint : ∀ c, (CharClass.ofEntries triggers).contains c = true →
      ¬(CharClass.ofEntries victims).contains c = true)
    (h : ∀ c ∈ s, (CharClass.ofEntries triggers).contains c = true) :
  withoutVictims victims s = s
  := by
  apply List.filter_eq_self.mpr
  intro c hc
  simpa [CharClass.contains_ofEntries] using hdisjoint c (h c hc)

/-- If no character is of both classes, the spans that are reported are rewritten: the victims in
each are dropped. -/
theorem fixAfter_eq_rewriteSpans
    (hdisjoint : ∀ c, (CharClass.ofEntries triggers).contains c = true →
      ¬(CharClass.ofEntries victims).contains c = true)
    (number : Nat) (line : Text) :
  fixAfter triggers victims line =
    rewriteSpans (withoutVictims victims) (lintAfter triggers victims number line) line
  := by
  have hplaced := Pattern.placed_matchesIn
    (consuming_adjacent (.ofEntries triggers) (.ofEntries victims)) line
  rw [lintAfter, rewriteSpans_ofMatch _ _ _ hplaced, fixAfter]
  apply substitute_eq_replaceMatches
  intro xs ys hxs hys
  rw [withoutVictims, List.filter_append, ← withoutVictims, ← withoutVictims,
    withoutVictims_of_triggers hdisjoint hxs, withoutVictims_of_victims hys, List.append_nil]

theorem fixBefore_eq_rewriteSpans
    (hdisjoint : ∀ c, (CharClass.ofEntries triggers).contains c = true →
      ¬(CharClass.ofEntries victims).contains c = true)
    (number : Nat) (line : Text) :
  fixBefore triggers victims line =
    rewriteSpans (withoutVictims victims) (lintBefore triggers victims number line) line
  := by
  have hplaced := Pattern.placed_matchesIn
    (consuming_adjacent (.ofEntries victims) (.ofEntries triggers)) line
  rw [lintBefore, rewriteSpans_ofMatch _ _ _ hplaced, fixBefore]
  apply substitute_eq_replaceMatches
  intro xs ys hxs hys
  rw [withoutVictims, List.filter_append, ← withoutVictims, ← withoutVictims,
    withoutVictims_of_victims hxs, withoutVictims_of_triggers hdisjoint hys, List.nil_append]

end

end JapaneseProse.Neighbour
