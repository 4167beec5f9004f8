import JapaneseProse.Proofs.Rule.Neighbour
import JapaneseProse.Proofs.Text.Columns
import JapaneseProse.Proofs.Text.Cursor
import Mathlib.Order.Bounds.Basic

/-!
# Pairs of stretches that may overlap

If a character can be of both classes, where the one stretch ends and the other begins is told by
columns (`IsPair`): the first is the run from its column on, or what is left of it when it gives back
so many characters as the second needs to begin, and no more.  The pairs of a line are found one
behind the other, each as far left as there is one (`PairsFrom`).

* `stretches?_eq_some_iff`: the first stretch is the longest that has a second one behind it.
* `isPair_iff`: the pair in a column is the one found at the head of the text there.
* `PairsFrom.unique`: the pairs of a line are determined.
* `pairs_found_and_replaced`: both rules find these pairs and no others, whether they report or
  rewrite.
-/

namespace JapaneseProse.Neighbour

open Pattern (runLength)

/-- The columns in which the stretches of a pair begin, and the column behind the second. -/
structure Pair where
  start : Nat
  split : Nat
  stop : Nat
deriving DecidableEq, Repr

/-- The first stretch goes on as far as it can if there is a character of the second class behind it,
and else as far as leaves one.  The second stretch goes on as far as it can. -/
structure IsPair (first second : CharClass) (s : Text) (p : Pair) : Prop where
  isGreatest : ∃ j, IsStretch first s p.start j ∧
    IsGreatest {k | p.start < k ∧ k ≤ j ∧ second.HoldsAt s k} p.split
  isStretch : IsStretch second s p.split p.stop

/-- The pairs of a line from a column on: the leftmost one, and those behind it. -/
inductive PairsFrom (first second : CharClass) (s : Text) : Nat → List Pair → Prop where
  | done {column : Nat} (h : ∀ p, IsPair first second s p → p.start < column) :
      PairsFrom first second s column []
  | next {column : Nat} {p : Pair} {ps : List Pair} (hp : IsPair first second s p)
      (hle : column ≤ p.start)
      (hleast : ∀ q, IsPair first second s q → column ≤ q.start → p.start ≤ q.start)
      (h : PairsFrom first second s p.stop ps) :
      PairsFrom first second s column (p :: ps)

/-- A line from a column on, with what `keep` makes of the stretches of pairs in their place. -/
def rewritePairs (keep : Text → Text → Text) (s : Text) (column : Nat) : List Pair → Text
  | [] => s.drop column
  | p :: ps =>
      s.extract column p.start ++ keep (s.extract p.start p.split) (s.extract p.split p.stop) ++
        rewritePairs keep s p.stop ps

variable {first second : CharClass} {keep : Text → Text → Text} {line s : Text} {p q : Pair}
variable {ps qs : List Pair} {column i m n : Nat}

/-! ### The pair at the head of a text -/

/-- In numbers that become smaller, what is found first is found at the greatest. -/
theorem isGreatest_of_findSome? {α : Type} {f : Nat → Option α} {l : List Nat} {a : α}
    (hl : l.Pairwise (· > ·)) (h : l.findSome? f = some a) :
  ∃ n, IsGreatest {n | n ∈ l ∧ f n ≠ none} n ∧ f n = some a
  := by
  obtain ⟨before, n, behind, rfl, hn, hfails⟩ := List.findSome?_eq_some_iff.mp h
  refine ⟨n, ⟨⟨by simp, by rw [hn]; exact Option.some_ne_none a⟩, ?_⟩, hn⟩
  rintro l ⟨hl', hne⟩
  rcases List.mem_append.mp hl' with hbefore | hmem
  · exact absurd (hfails l hbefore) hne
  · rcases List.mem_cons.mp hmem with rfl | hbehind
    · apply Nat.le_refl
    · have hcons := (List.pairwise_append.mp hl).2.1
      apply Nat.le_of_lt ((List.pairwise_cons.mp hcons).1 l hbehind)

/-- The first stretch is the longest that has a second one behind it. -/
theorem isGreatest_of_stretches? (h : stretches? first second s = some (n, m)) :
  IsGreatest {n | 0 < n ∧ n ≤ runLength first s ∧ second.HoldsAt s n} n
  := by
  rw [stretches?, Pattern.ways_eq, List.findSome?_map] at h
  have hdown : ((Pattern.run first).lengths s).Pairwise (· > ·) :=
    List.pairwise_reverse.mpr List.pairwise_lt_range'
  obtain ⟨l, hgreatest, hl⟩ := isGreatest_of_findSome? hdown h
  obtain ⟨_, -, heq⟩ := Option.map_eq_some_iff.mp hl
  obtain rfl : l = n := (Prod.mk.inj heq).1
  convert hgreatest using 1
  ext l
  change (0 < l ∧ l ≤ _ ∧ _) ↔ l ∈ Pattern.countDown (runLength first s) 1 ∧ _
  rw [Function.comp_apply, Ne, Option.map_eq_none_iff, Pattern.run,
    Pattern.length?_stretch_eq_none_iff, Pattern.mem_countDown, and_assoc, CharClass.holdsAt_iff,
    Nat.not_lt]
  rfl

theorem stretches?_eq_none_iff :
  stretches? first second s = none ↔
    ∀ n, 0 < n → n ≤ runLength first s → ¬second.HoldsAt s n
  := by
  rw [← Option.map_eq_none_iff (f := fun w : Nat × Nat => w.1 + w.2), ← length?_adjacent,
    length?_adjacent_eq_none_iff]
  simp only [CharClass.holdsAt_iff, Nat.pos_iff_ne_zero, not_not]

theorem stretches?_eq_some_iff :
  stretches? first second s = some (n, m) ↔
    IsGreatest {n | 0 < n ∧ n ≤ runLength first s ∧ second.HoldsAt s n} n ∧
      m = runLength second (s.drop n)
  := by
  constructor
  · intro h
    exact ⟨isGreatest_of_stretches? h, (stretches?_eq_some h).2.2⟩
  · rintro ⟨hgreatest, rfl⟩
    obtain ⟨hpos, hle, hholds⟩ := hgreatest.1
    cases h : stretches? first second s with
    | none => exact absurd hholds (stretches?_eq_none_iff.mp h n hpos hle)
    | some w =>
        obtain ⟨n', m'⟩ := w
        obtain rfl := (isGreatest_of_stretches? h).unique hgreatest
        rw [(stretches?_eq_some h).2.2]

/-! ### Pairs by their columns -/

namespace IsPair

/-- A pair is known by the column in which it begins. -/
theorem unique (hp : IsPair first second s p) (hq : IsPair first second s q)
    (h : p.start = q.start) :
  p = q
  := by
  obtain ⟨⟨j, hj, hgreatest⟩, hstop⟩ := hp
  obtain ⟨⟨j', hj', hgreatest'⟩, hstop'⟩ := hq
  obtain ⟨start, split, stop⟩ := p
  obtain ⟨start', split', stop'⟩ := q
  obtain rfl : start = start' := h
  obtain rfl := hj.unique hj'
  obtain rfl : split = split' := hgreatest.unique hgreatest'
  obtain rfl : stop = stop' := hstop.unique hstop'
  rfl

/-- If a character of the second class stands behind the first run, the pair is split there. -/
theorem split_eq (hp : IsPair first second s p) {j : Nat} (hj : IsStretch first s p.start j)
    (hholds : second.HoldsAt s j) :
  p.split = j
  := by
  obtain ⟨j', hj', hgreatest⟩ := hp.isGreatest
  obtain rfl := hj.unique hj'
  obtain ⟨hlt, hle, -⟩ := hgreatest.1
  apply Nat.le_antisymm hle
  apply hgreatest.2 ⟨Nat.lt_of_lt_of_le hlt hle, Nat.le_refl _, hholds⟩

end IsPair

/-- The columns behind column `i` are those of the text from there on. -/
theorem isGreatest_add_iff {r : Nat} :
  IsGreatest {k | i < k ∧ k ≤ i + r ∧ second.HoldsAt s k} (i + n) ↔
    IsGreatest {l | 0 < l ∧ l ≤ r ∧ second.HoldsAt (s.drop i) l} n
  := by
  have hmem (l : Nat) : (i < i + l ∧ i + l ≤ i + r ∧ second.HoldsAt s (i + l)) ↔
      0 < l ∧ l ≤ r ∧ second.HoldsAt (s.drop i) l := by
    rw [CharClass.holdsAt_add_iff, Nat.lt_add_right_iff_pos, Nat.add_le_add_iff_left]
  apply and_congr (hmem n)
  constructor
  · intro h l hl
    apply Nat.le_of_add_le_add_left (h ((hmem l).mpr hl))
  · rintro h k hk
    obtain ⟨l, rfl⟩ := Nat.exists_eq_add_of_lt hk.1
    apply Nat.add_le_add_left (h ((hmem (l + 1)).mp hk))

/-- The pair in a column is the one at the head of the text there. -/
theorem isPair_iff :
  IsPair first second s ⟨i, i + n, i + n + m⟩ ↔
    stretches? first second (s.drop i) = some (n, m)
  := by
  rw [stretches?_eq_some_iff, List.drop_drop, ← isGreatest_add_iff]
  constructor
  · rintro ⟨⟨j, hj, hgreatest⟩, hstop⟩
    obtain rfl := isStretch_iff.mp hj
    exact ⟨hgreatest, Nat.add_left_cancel (isStretch_iff.mp hstop)⟩
  · rintro ⟨hgreatest, rfl⟩
    exact ⟨⟨_, .of_runLength first s i, hgreatest⟩, .of_runLength second s (i + n)⟩

/-- Every pair is the one at the head of the text in its column. -/
theorem IsPair.exists_stretches? (h : IsPair first second s p) :
  ∃ n m, p.split = p.start + n ∧ p.stop = p.start + n + m ∧
    stretches? first second (s.drop p.start) = some (n, m)
  := by
  obtain ⟨start, split, stop⟩ := p
  have hlt : start < split := h.isGreatest.choose_spec.2.1.1
  have hle : split ≤ stop := h.isStretch.le
  obtain ⟨n, rfl⟩ := Nat.exists_eq_add_of_le (Nat.le_of_lt hlt)
  obtain ⟨m, rfl⟩ := Nat.exists_eq_add_of_le hle
  exact ⟨n, m, rfl, rfl, isPair_iff.mp h⟩

theorem IsPair.start_lt_length (h : IsPair first second s p) :
  p.start < s.length
  := by
  obtain ⟨j, -, hgreatest⟩ := h.isGreatest
  obtain ⟨hlt, -, hholds⟩ := hgreatest.1
  apply Nat.lt_trans hlt hholds.lt_length

/-- The first and the second stretch together fail in a column in which no pair begins. -/
theorem length?_adjacent_drop_eq_none_iff :
  (adjacent first second).length? (s.drop i) = none ↔
    ∀ p, IsPair first second s p → p.start ≠ i
  := by
  rw [length?_adjacent, Option.map_eq_none_iff]
  constructor
  · rintro hnone p hp rfl
    obtain ⟨n, m, -, -, hsome⟩ := hp.exists_stretches?
    rw [hnone] at hsome
    cases hsome
  · intro h
    cases hw : stretches? first second (s.drop i) with
    | none => rfl
    | some w => exact absurd rfl (h _ (isPair_iff.mpr hw))

/-! ### The pairs of a line -/

namespace PairsFrom

/-- The pairs from a column on are determined. -/
theorem unique (hps : PairsFrom first second s column ps) (hqs : PairsFrom first second s column qs) :
  ps = qs
  := by
  induction hps generalizing qs with
  | done h =>
      cases hqs with
      | done => rfl
      | next hq hle _ _ => exact absurd (h _ hq) (Nat.not_lt.mpr hle)
  | next hp hle hleast _ ih =>
      cases hqs with
      | done h => exact absurd (h _ hp) (Nat.not_lt.mpr hle)
      | next hq hle' hleast' hqs =>
          obtain rfl := hp.unique hq (Nat.le_antisymm (hleast _ hq hle') (hleast' _ hp hle))
          rw [ih hqs]

theorem isPair_of_mem (h : PairsFrom first second s column ps) :
  ∀ p ∈ ps, IsPair first second s p
  := by
  induction h with
  | done => exact List.forall_mem_nil _
  | next hp _ _ _ ih => exact List.forall_mem_cons.mpr ⟨hp, ih⟩

end PairsFrom

/-- What is found where a pair stands. -/
def Pair.found (s : Text) (p : Pair) : Match := ⟨p.start, s.extract p.start p.stop⟩

/-- Up to a column in which there is a pair, and in which there is none before, a line stays. -/
theorem joinPieces_drop_of_fails {r : Nat}
    (h : ∀ j, column ≤ j → j < column + r → (adjacent first second).length? (line.drop j) = none) :
  joinPieces (pieces (pairAt? first second keep) (line.drop column)) =
    line.extract column (column + r) ++
      joinPieces (pieces (pairAt? first second keep) (line.drop (column + r)))
  := by
  rw [joinPieces_pieces_of_none _ r, List.drop_drop, List.extract_eq_take_drop,
    Nat.add_sub_cancel_left]
  intro j c t hj hdrop
  rw [List.drop_drop] at hdrop
  rw [pairAt?_eq_none_iff, ← hdrop]
  apply h _ (Nat.le_add_right column j) (Nat.add_lt_add_left hj column)

/-- A pair gives way to what `keep` makes of it. -/
theorem joinPieces_drop_of_isPair (h : IsPair first second line p) :
  joinPieces (pieces (pairAt? first second keep) (line.drop p.start)) =
    keep (line.extract p.start p.split) (line.extract p.split p.stop) ++
      joinPieces (pieces (pairAt? first second keep) (line.drop p.stop))
  := by
  obtain ⟨n, m, hsplit, hstop, hstretches⟩ := h.exists_stretches?
  obtain ⟨⟨hpos, -⟩, -⟩ := stretches?_eq_some hstretches
  have hne : line.drop p.start ≠ [] := by
    rw [Ne, List.drop_eq_nil_iff, Nat.not_le]
    exact h.start_lt_length
  obtain ⟨c, t, hdrop⟩ := List.exists_cons_of_ne_nil hne
  have hpair : pairAt? first second keep c t =
      some (n + m - 1, keep ((c :: t).take n) (((c :: t).drop n).take m)) := by
    rw [pairAt?, ← hdrop, hstretches]
    rfl
  have hrest : t.drop (n + m - 1) = line.drop p.stop := by
    rw [hstop, Nat.add_assoc, ← List.drop_drop, hdrop, ← List.drop_succ_cons (a := c)]
    congr 1
    omega
  rw [hdrop, joinPieces_cons_of_some _ hpair, hrest, ← hdrop, List.drop_drop, hstop, hsplit,
    List.extract_eq_take_drop, List.extract_eq_take_drop, Nat.add_sub_cancel_left,
    Nat.add_sub_cancel_left]

/-- What is found first from a column on is a pair, and no other pair begins there or before. -/
theorem exists_isPair_of_isFirst (h : (adjacent first second).IsFirst line column i n) :
  ∃ p, IsPair first second line p ∧ p.start = i ∧ p.stop = i + max n 1 ∧
    (⟨i, (line.drop i).take n⟩ : Match) = p.found line ∧
    ∀ q, IsPair first second line q → column ≤ q.start → p.start ≤ q.start
  := by
  have hsome := h.succeeds
  rw [length?_adjacent] at hsome
  obtain ⟨⟨n, m⟩, hstretches, rfl⟩ := Option.map_eq_some_iff.mp hsome
  obtain ⟨⟨hpos, -⟩, -⟩ := stretches?_eq_some hstretches
  refine ⟨⟨i, i + n, i + n + m⟩, isPair_iff.mpr hstretches, rfl, ?_, ?_, fun q hq hle => ?_⟩
  · change i + n + m = i + max (n + m) 1
    omega
  · rw [Pair.found, List.extract_eq_take_drop, Nat.add_assoc, Nat.add_sub_cancel_left]
  · by_contra hlt
    have hfails := h.fails q.start hle (Nat.not_le.mp hlt)
    apply length?_adjacent_drop_eq_none_iff.mp hfails q hq rfl

/-- A search for pairs finds them one behind the other, and a rewriting goes through the same. -/
theorem exists_pairsFrom {ms : List Match}
    (h : (adjacent first second).Scans none line column ms) :
  ∃ ps, PairsFrom first second line column ps ∧ ms = ps.map (Pair.found line) ∧
    ∀ keep, joinPieces (pieces (pairAt? first second keep) (line.drop column)) =
      rewritePairs keep line column ps
  := by
  induction h with
  | @stop column hfails =>
      refine ⟨[], .done fun p hp => ?_, rfl, fun keep => ?_⟩
      · by_contra hge
        have hnone := hfails p.start (Nat.not_lt.mp hge) (Nat.le_of_lt hp.start_lt_length)
        apply length?_adjacent_drop_eq_none_iff.mp hnone p hp rfl
      · have hend : line.drop (column + (line.length - column)) = [] :=
          List.drop_eq_nil_of_le (by omega)
        rw [joinPieces_drop_of_fails (r := line.length - column)
          fun j hj hlt => hfails j hj (by omega), hend, List.extract_eq_take_drop,
          Nat.add_sub_cancel_left, ← List.length_drop, List.take_length, rewritePairs]
        apply List.append_nil
  | recorded hfirst _ _ ih =>
      obtain ⟨p, hp, rfl, hstop, hfound, hleast⟩ := exists_isPair_of_isFirst hfirst
      obtain ⟨ps, hps, rfl, hrewrite⟩ := ih
      rw [← hstop] at hps hrewrite
      refine ⟨p :: ps, .next hp hfirst.le hleast hps, ?_, fun keep => ?_⟩
      · rw [hfound, List.map_cons]
      · obtain ⟨r, hr⟩ := Nat.exists_eq_add_of_le hfirst.le
        have hfails := hfirst.fails
        rw [hr] at hfails
        rw [joinPieces_drop_of_fails hfails, ← hr, joinPieces_drop_of_isPair hp, hrewrite,
          rewritePairs, List.append_assoc]
  | leftOut _ hleftOut _ _ => cases hleftOut

/-- The finding of a pair covers both stretches. -/
theorem ofMatch_found (number : Nat) (kind : Finding.Kind) (h : IsPair first second line p) :
  Finding.ofMatch number kind (p.found line) =
    ⟨number, p.start, p.stop, line.extract p.start p.stop, kind⟩
  := by
  obtain ⟨j, -, hgreatest⟩ := h.isGreatest
  obtain ⟨hlt, -, hholds⟩ := hgreatest.1
  have hle := h.isStretch.le
  have hend := h.isStretch.le_length (Nat.le_of_lt hholds.lt_length)
  have hlength : (line.extract p.start p.stop).length = p.stop - p.start := by
    rw [List.extract_eq_take_drop, List.length_take, List.length_drop]
    omega
  have hstop : p.start + (p.stop - p.start) = p.stop := by omega
  rw [Finding.ofMatch, Pair.found, hlength, hstop]

/-- Whatever characters the two tables share, the pairs of a line are determined, and both rules find
just these, one behind the other: what is reported covers a pair, and of a pair that is rewritten
one stretch is kept, the first if what follows triggers is dropped, and the second if what stands in
front of them is. -/
theorem pairs_found_and_replaced (first second : List Text) (number : Nat) (line : Text) :
  ∃ ps, (∀ qs, PairsFrom (.ofEntries first) (.ofEntries second) line 0 qs ↔ qs = ps) ∧
    (∀ p ∈ ps, ∀ j, IsStretch (.ofEntries first) line p.start j →
      (CharClass.ofEntries second).HoldsAt line j → p.split = j) ∧
    lintAfter first second number line =
      ps.map (fun p => ⟨number, p.start, p.stop, line.extract p.start p.stop, .markAfterMark⟩) ∧
    lintBefore second first number line =
      ps.map (fun p => ⟨number, p.start, p.stop, line.extract p.start p.stop, .markBeforeMark⟩) ∧
    (∀ keep, substitute (.ofEntries first) (.ofEntries second) keep line =
      rewritePairs keep line 0 ps) ∧
    fixAfter first second line = rewritePairs (fun kept _ => kept) line 0 ps ∧
    fixBefore second first line = rewritePairs (fun _ kept => kept) line 0 ps
  := by
  obtain ⟨ps, hps, hmatches, hrewrite⟩ := exists_pairsFrom (Pattern.scans_none_iff.mpr
    (rfl : _ = (adjacent (.ofEntries first) (.ofEntries second)).matchesIn line))
  have hpair := hps.isPair_of_mem
  have hlint (kind : Finding.Kind) : (ps.map (Pair.found line)).map (Finding.ofMatch number kind) =
      ps.map fun p => ⟨number, p.start, p.stop, line.extract p.start p.stop, kind⟩ := by
    rw [List.map_map]
    apply List.map_congr_left
    intro p hp
    apply ofMatch_found number kind (hpair p hp)
  have hsubstitute (keep : Text → Text → Text) :
      substitute (.ofEntries first) (.ofEntries second) keep line = rewritePairs keep line 0 ps := by
    rw [substitute_eq]
    apply hrewrite
  refine ⟨ps, fun qs => ⟨fun hqs => hqs.unique hps, ?_⟩, fun p hp j => (hpair p hp).split_eq, ?_, ?_,
    hsubstitute, hsubstitute _, hsubstitute _⟩
  · rintro rfl
    exact hps
  · rw [lintAfter, hmatches, hlint]
  · rw [lintBefore, hmatches, hlint]

/-- Every mark of the line is of the first class.  Where the run is followed by none of the second
class, it gives back its last one. -/
example :
  fixAfter [['！', '、']] [['、']] ['！', '、', '、', 'あ', '、', '、', '！', '、'] =
    ['！', '、', 'あ', '、', '、', '！']
  := by decide

end JapaneseProse.Neighbour
