import JapaneseProse.Text.CharClass

/-!
# Patterns

A pattern is matched at the head of a text in every possible way; the ways are
listed in the order in which they are tried, a longer stretch before a shorter one,
and each is given by the number of characters it takes.  The matches of a pattern in
a line are found from left to right: at each place the first way that succeeds is
taken, and the search goes on behind it.  An empty match is recorded as well, and the
search goes on one character later.  The search passes over a stretch only once and keeps
the text behind each way; what it finds are the listed lengths.
-/

namespace JapaneseProse

/-- What can be looked for in a line. -/
inductive Pattern where
  /-- At least `least` and at most `most` characters of a class. -/
  | stretch (k : CharClass) (least : Nat) (most : Option Nat)
  /-- A character of a class and at least one more copy of it. -/
  | copies (k : CharClass)
  /-- Nothing, where no character of a class comes next. -/
  | notBefore (k : CharClass)
  /-- One pattern directly after another. -/
  | followedBy (p q : Pattern)
deriving DecidableEq, Repr

/-- A place where a pattern occurs, and the text found there. -/
structure Match where
  offset : Nat
  text : Text
deriving DecidableEq, Repr

namespace Pattern

/-- The number of characters of a class at the head of a text. -/
def runLength (k : CharClass) (s : Text) : Nat := (s.takeWhile k.contains).length

/-- The numbers from `high` down to `low`. -/
def countDown (high low : Nat) : List Nat := (List.range' low (high + 1 - low)).reverse

/-- The lengths of the ways in which a pattern matches at the head of a text, in the
order in which they are tried. -/
def lengths : Pattern → Text → List Nat
  | stretch k least most, s =>
      let n := runLength k s
      countDown (match most with | none => n | some m => min n m) least
  | copies _, [] => []
  | copies k, c :: s =>
      if k.contains c then countDown ((s.takeWhile (· == c)).length + 1) 2 else []
  | notBefore _, [] => [0]
  | notBefore k, c :: _ => if k.contains c then [] else [0]
  | followedBy p q, s => (p.lengths s).flatMap fun n => (q.lengths (s.drop n)).map (n + ·)

/-- The stretches of a class at the head of a text that are one character longer each,
the longest first, in front of the `shorter` ones.  With each comes the text behind it;
`taken` characters have been taken, and at most `more` may be. -/
def stretchWays (k : CharClass) (least taken : Nat) (more : Option Nat)
    (shorter : List (Nat × Text)) (s : Text) : List (Nat × Text) :=
  let ways := if least ≤ taken then (taken, s) :: shorter else shorter
  match s with
  | [] => ways
  | c :: s =>
      if more = some 0 ∨ k.contains c = false then ways
      else stretchWays k least (taken + 1) (more.map (· - 1)) ways s

/-- The ways in which a pattern matches at the head of a text, each with its length and
the text behind it. -/
def ways : Pattern → Text → List (Nat × Text)
  | stretch k least most, s => stretchWays k least 0 most [] s
  | copies _, [] => []
  | copies k, c :: s =>
      if k.contains c then
        (stretchWays ⟨[c], false⟩ 1 0 none [] s).map fun w => (w.1 + 1, w.2)
      else []
  | notBefore _, [] => [(0, [])]
  | notBefore k, c :: s => if k.contains c then [] else [(0, c :: s)]
  | followedBy p q, s =>
      (p.ways s).flatMap fun w => (q.ways w.2).map fun v => (w.1 + v.1, v.2)

/-- The length of the way in which a pattern matches at the head of a text. -/
def length? : Pattern → Text → Option Nat
  | followedBy p q, s => (p.ways s).findSome? fun w => (q.length? w.2).map (w.1 + ·)
  | p, s => (p.ways s).head?.map Prod.fst

/-- The matches in a text that begins at `offset`, after `skip` more characters. -/
def matchesFrom (p : Pattern) (offset : Nat) : Nat → Text → List Match
  | 0, [] =>
      match p.length? [] with
      | some _ => [⟨offset, []⟩]
      | none => []
  | _ + 1, [] => []
  | 0, c :: s =>
      match p.length? (c :: s) with
      | some n => ⟨offset, (c :: s).take n⟩ :: matchesFrom p (offset + 1) (n - 1) s
      | none => matchesFrom p (offset + 1) 0 s
  | skip + 1, _ :: s => matchesFrom p (offset + 1) skip s

/-- Whether a pattern matches anywhere in a text. -/
def occursIn (p : Pattern) : Text → Bool
  | [] => (p.length? []).isSome
  | c :: s => (p.length? (c :: s)).isSome || p.occursIn s

/-! ### The ways and their lengths -/

/-- The number of characters of a class at the head of a text, of which at most `more`
count. -/
def boundedLength (k : CharClass) (more : Option Nat) (s : Text) : Nat :=
  match more with
  | none => runLength k s
  | some m => min (runLength k s) m

theorem boundedLength_of_stop {k : CharClass} {more : Option Nat} {c : Char} {s : Text}
    (h : more = some 0 ∨ k.contains c = false) :
  boundedLength k more (c :: s) = 0
  := by
  rcases h with rfl | h
  · simp [boundedLength]
  · cases more <;> simp [boundedLength, runLength, h]

theorem boundedLength_of_go {k : CharClass} {more : Option Nat} {c : Char} {s : Text}
    (h : ¬(more = some 0 ∨ k.contains c = false)) :
  boundedLength k more (c :: s) = boundedLength k (more.map (· - 1)) s + 1
  := by
  rw [not_or, Bool.not_eq_false] at h
  obtain ⟨hmore, hc⟩ := h
  cases more with
  | none => simp [boundedLength, runLength, hc]
  | some m =>
      cases m with
      | zero => exact absurd rfl hmore
      | succ m => simp [boundedLength, runLength, hc, Nat.succ_min_succ]

theorem countDown_self_max (taken least : Nat) :
  countDown taken (max least taken) = if least ≤ taken then [taken] else []
  := by
  by_cases h : least ≤ taken
  · rw [Nat.max_eq_right h, if_pos h, countDown, Nat.add_sub_cancel_left]
    rfl
  · have hmax : taken + 1 - max least taken = 0 := by omega
    simp [countDown, h, hmax]

theorem countDown_succ_max (taken least b : Nat) :
  countDown (taken + (b + 1)) (max least taken)
    = countDown (taken + 1 + b) (max least (taken + 1)) ++ if least ≤ taken then [taken] else []
  := by
  by_cases h : least ≤ taken
  · have h' : least ≤ taken + 1 := Nat.le_succ_of_le h
    have hlen : taken + (b + 1) + 1 - taken = (taken + 1 + b + 1 - (taken + 1)) + 1 := by omega
    simp only [countDown, h, Nat.max_eq_right h, Nat.max_eq_right h', if_true, hlen]
    rw [List.range'_succ, List.reverse_cons]
  · have hsum : taken + (b + 1) = taken + 1 + b := by omega
    have hmax : max least taken = least := by omega
    have hmax' : max least (taken + 1) = least := by omega
    simp [h, hmax, hmax', hsum]

theorem countDown_succ_succ (high low : Nat) :
  countDown (high + 1) (low + 1) = (countDown high low).map (· + 1)
  := by
  have hlen : high + 1 + 1 - (low + 1) = high + 1 - low := by omega
  rw [countDown, countDown, hlen, List.map_reverse]
  congr 1
  rw [Nat.add_comm low 1, ← List.map_add_range']
  apply List.map_congr_left
  intro n _
  apply Nat.add_comm

theorem le_of_mem_countDown {high low n : Nat} (h : n ∈ countDown high low) :
  low ≤ n
  := by
  rw [countDown, List.mem_reverse, List.mem_range'_1] at h
  exact h.1

/-- The ways of a stretch are its lengths from the longest on, each with the text behind. -/
theorem stretchWays_eq (k : CharClass) (least taken : Nat) (more : Option Nat)
    (shorter : List (Nat × Text)) (s : Text) :
  stretchWays k least taken more shorter s
    = (countDown (taken + boundedLength k more s) (max least taken)).map
        (fun n => (n, s.drop (n - taken))) ++ shorter
  := by
  induction s generalizing taken more shorter with
  | nil =>
      have hzero : boundedLength k more [] = 0 := by
        cases more <;> simp [boundedLength, runLength]
      rw [stretchWays, hzero, Nat.add_zero, countDown_self_max]
      by_cases h : least ≤ taken <;> simp [h]
  | cons c s ih =>
      by_cases hstop : more = some 0 ∨ k.contains c = false
      · rw [stretchWays, if_pos hstop, boundedLength_of_stop hstop, Nat.add_zero,
          countDown_self_max]
        by_cases h : least ≤ taken <;> simp [h]
      · rw [stretchWays, if_neg hstop, ih, boundedLength_of_go hstop, countDown_succ_max]
        rw [List.map_append, List.append_assoc]
        congr 1
        · apply List.map_congr_left
          intro n hn
          have hle : taken + 1 ≤ n := by
            have := le_of_mem_countDown hn
            omega
          obtain ⟨m, rfl⟩ := Nat.exists_eq_add_of_le hle
          have hm : taken + 1 + m - taken = m + 1 := by omega
          have hm' : taken + 1 + m - (taken + 1) = m := by omega
          rw [hm, hm', List.drop_succ_cons]
        · by_cases h : least ≤ taken <;> simp [h]

/-- The ways of a pattern are its lengths, each with the text behind. -/
theorem ways_eq (p : Pattern) (s : Text) :
  p.ways s = (p.lengths s).map fun n => (n, s.drop n)
  := by
  induction p generalizing s with
  | stretch k least most =>
      rw [ways, stretchWays_eq, List.append_nil, Nat.zero_add, Nat.max_zero]
      rfl
  | copies k =>
      cases s with
      | nil => rfl
      | cons c s =>
          by_cases hc : k.contains c = true
          · have hclass : CharClass.contains ⟨[c], false⟩ = (· == c) := by
              funext d
              rw [Bool.eq_iff_iff]
              simp [CharClass.contains]
            simp only [ways, lengths, hc, if_true, stretchWays_eq, List.append_nil,
              boundedLength, runLength, hclass, Nat.zero_add, Nat.max_zero]
            rw [countDown_succ_succ, List.map_map, List.map_map]
            rfl
          · simp [ways, lengths, hc]
  | notBefore k =>
      cases s with
      | nil => rfl
      | cons c s => by_cases hc : k.contains c = true <;> simp [ways, lengths, hc]
  | followedBy p q hp hq =>
      rw [ways, lengths, hp, List.flatMap_map, List.map_flatMap]
      congr 1
      funext n
      rw [hq, List.map_map, List.map_map]
      apply List.map_congr_left
      intro m _
      simp [List.drop_drop]

theorem head?_ways (p : Pattern) (s : Text) :
  (p.ways s).head?.map Prod.fst = (p.lengths s).head?
  := by
  rw [ways_eq, List.head?_map, Option.map_map]
  cases (p.lengths s).head? <;> rfl

/-- What is found first is the first of the lengths. -/
theorem length?_eq (p : Pattern) (s : Text) :
  p.length? s = (p.lengths s).head?
  := by
  induction p generalizing s with
  | stretch k least most => exact head?_ways _ s
  | copies k => exact head?_ways _ s
  | notBefore k => exact head?_ways _ s
  | followedBy p q _ hq =>
      rw [length?, ways_eq, lengths, List.head?_flatMap, List.findSome?_map]
      congr 1
      funext n
      rw [Function.comp_apply, hq, List.head?_map]

/-! ### The patterns the rules are made of -/

/-- One or more characters of a class. -/
def run (k : CharClass) : Pattern := stretch k 1 none

/-- Two or more characters of a class. -/
def longRun (k : CharClass) : Pattern := stretch k 2 none

/-- One character of a class. -/
def single (k : CharClass) : Pattern := stretch k 1 (some 1)

end Pattern

end JapaneseProse
