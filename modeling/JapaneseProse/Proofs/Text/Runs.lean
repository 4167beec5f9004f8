import JapaneseProse.Text.Search
import Mathlib.Data.List.Chain
import Mathlib.Tactic.Push

/-!
# Runs and what is found in a line

A run of a class ends in front of a character that is not of the class.  A pattern of a run
takes the whole run or fails.  A pattern that does not match without taking a character is
called consuming, and its matches are found from place to place (`matchesFrom_induction`).

A pattern finds nothing in a line if and only if it fails at every place of the line
(`matchesIn_eq_nil_iff`).  If whether it fails at a place, when it fails behind that place,
can be told from the two characters there, it finds nothing if and only if all neighbours in
the line are as they should be (`matchesIn_eq_nil_iff_isChain`).
-/

namespace JapaneseProse

theorem CharClass.contains_ofEntries_append {a b : List Text} {c : Char} :
  (ofEntries (a ++ b)).contains c = true ↔
    (ofEntries a).contains c = true ∨ (ofEntries b).contains c = true
  := by
  simp only [contains_ofEntries, List.mem_append, or_and_right, exists_or]

namespace Pattern

variable {k : CharClass} {c : Char} {s : Text}

/-! ### Runs -/

@[simp]
theorem runLength_nil (k : CharClass) :
  runLength k [] = 0
  := rfl

theorem runLength_cons_of_pos (s : Text) (h : k.contains c = true) :
  runLength k (c :: s) = runLength k s + 1
  := by
  rw [runLength, List.takeWhile_cons_of_pos h]
  rfl

theorem runLength_cons_of_neg (s : Text) (h : ¬k.contains c = true) :
  runLength k (c :: s) = 0
  := by
  rw [runLength, List.takeWhile_cons_of_neg h]
  rfl

theorem runLength_eq_zero_iff :
  runLength k s = 0 ↔ ∀ d ∈ s.head?, ¬k.contains d = true
  := by
  cases s with
  | nil => simp
  | cons d s =>
      by_cases h : k.contains d = true
      · simp [runLength_cons_of_pos s h, h]
      · simp [runLength_cons_of_neg s h, h]

theorem runLength_pos_iff :
  0 < runLength k s ↔ ∃ d ∈ s.head?, k.contains d = true
  := by
  rw [Nat.pos_iff_ne_zero, Ne, runLength_eq_zero_iff]
  push Not
  rfl

theorem runLength_append_of_forall {r : Text} (h : ∀ d ∈ r, k.contains d = true) (s : Text) :
  runLength k (r ++ s) = r.length + runLength k s
  := by
  rw [runLength, List.takeWhile_append_of_pos h, List.length_append]
  rfl

theorem contains_of_mem_take {n : Nat} (hn : n ≤ runLength k s) (h : c ∈ s.take n) :
  k.contains c = true
  := by
  induction n generalizing s with
  | zero => simp at h
  | succ n ih =>
      cases s with
      | nil => simp at h
      | cons d s =>
          by_cases hd : k.contains d = true
          · rw [runLength_cons_of_pos s hd] at hn
            rw [List.take_succ_cons] at h
            rcases List.mem_cons.mp h with rfl | h
            · exact hd
            · apply ih (Nat.le_of_succ_le_succ hn) h
          · rw [runLength_cons_of_neg s hd] at hn
            exact absurd hn (Nat.not_succ_le_zero n)

theorem take_runLength (k : CharClass) (s : Text) :
  s.take (runLength k s) = s.takeWhile k.contains
  := (List.prefix_iff_eq_take.mp (List.takeWhile_prefix _)).symm

theorem drop_runLength (k : CharClass) (s : Text) :
  s.drop (runLength k s) = s.dropWhile k.contains
  := by
  have h := List.take_append_drop (runLength k s) s
  rw [take_runLength] at h
  apply List.append_cancel_left (h.trans List.takeWhile_append_dropWhile.symm)

theorem runLength_take (k : CharClass) (n : Nat) (s : Text) :
  runLength k (s.take n) = min n (runLength k s)
  := by
  rw [runLength, ← List.take_takeWhile, List.length_take]
  rfl

/-- Behind a run stands no character of its class. -/
theorem not_contains_of_mem_head?_drop (h : c ∈ (s.drop (runLength k s)).head?) :
  ¬k.contains c = true
  := by
  apply runLength_eq_zero_iff.mp _ c h
  rw [runLength_drop k (Nat.le_refl _), Nat.sub_self]

theorem head?_countDown (high low : Nat) :
  (countDown high low).head? = if low ≤ high then some high else none
  := by
  by_cases h : low ≤ high
  · have hlen : high + 1 - low ≠ 0 := by omega
    have hlast : low + (high + 1 - low) - 1 = high := by omega
    rw [countDown, List.head?_reverse, List.getLast?_range', if_neg hlen, if_pos h, hlast]
  · have hlen : high + 1 - low = 0 := by omega
    rw [countDown, hlen, if_neg h]
    rfl

/-- A stretch without upper bound takes the whole run, if the run is long enough. -/
theorem length?_stretch (k : CharClass) (least : Nat) (s : Text) :
  (stretch k least none).length? s =
    if least ≤ runLength k s then some (runLength k s) else none
  := by
  rw [length?_eq, lengths]
  apply head?_countDown

theorem length?_stretch_eq_some_iff {least n : Nat} :
  (stretch k least none).length? s = some n ↔ least ≤ n ∧ n = runLength k s
  := by
  rw [length?_stretch]
  by_cases h : least ≤ runLength k s
  · rw [if_pos h, Option.some.injEq]
    constructor
    · rintro rfl
      exact ⟨h, rfl⟩
    · rintro ⟨-, rfl⟩
      rfl
  · rw [if_neg h]
    constructor
    · rintro ⟨⟩
    · rintro ⟨hle, rfl⟩
      exact absurd hle h

theorem length?_stretch_eq_none_iff {least : Nat} :
  (stretch k least none).length? s = none ↔ runLength k s < least
  := by
  rw [length?_stretch]
  by_cases h : least ≤ runLength k s
  · simp [h]
  · simp [h, Nat.lt_of_not_le h]

/-! ### Lengths of matches -/

theorem le_length_of_mem_lengths {p : Pattern} {s : Text} {n : Nat} (h : n ∈ p.lengths s) :
  n ≤ s.length
  := by
  induction p generalizing s n with
  | stretch k least most =>
      have hn := (mem_countDown.mp h).2
      have hrun := runLength_le k s
      cases most with
      | none => apply Nat.le_trans hn hrun
      | some m => apply Nat.le_trans (Nat.le_trans hn (Nat.min_le_left _ _)) hrun
  | copies k =>
      cases s with
      | nil => simp [lengths] at h
      | cons c s =>
          by_cases hc : k.contains c = true
          · simp only [lengths, hc, if_true] at h
            have hn := (mem_countDown.mp h).2
            have hrun := (List.takeWhile_sublist (l := s) (· == c)).length_le
            rw [List.length_cons]
            omega
          · simp [lengths, hc] at h
  | notBefore k =>
      cases s with
      | nil => simpa [lengths] using h
      | cons c s =>
          by_cases hc : k.contains c = true
          · simp [lengths, hc] at h
          · obtain rfl : n = 0 := by simpa [lengths, hc] using h
            apply Nat.zero_le _
  | followedBy p q hp hq =>
      obtain ⟨i, hi, h⟩ := List.mem_flatMap.mp h
      obtain ⟨j, hj, rfl⟩ := List.mem_map.mp h
      have hi := hp hi
      have hj := hq hj
      rw [List.length_drop] at hj
      omega

theorem le_length_of_length? {p : Pattern} {s : Text} {n : Nat} (h : p.length? s = some n) :
  n ≤ s.length
  := by
  rw [length?_eq] at h
  apply le_length_of_mem_lengths (List.mem_of_head? h)

/-- Every match takes a character. -/
def Consuming (p : Pattern) : Prop := ∀ s n, p.length? s = some n → 0 < n

theorem Consuming.length?_nil {p : Pattern} (hp : p.Consuming) :
  p.length? [] = none
  := by
  cases h : p.length? [] with
  | none => rfl
  | some n =>
      have hpos := hp [] n h
      have hle := le_length_of_length? h
      rw [List.length_nil] at hle
      omega

/-! ### Searching from place to place -/

theorem matchesFrom_eq_drop (p : Pattern) (offset : Nat) {skip : Nat} (h : skip ≤ s.length) :
  p.matchesFrom offset skip s = p.matchesFrom (offset + skip) 0 (s.drop skip)
  := by
  induction s generalizing offset skip with
  | nil =>
      obtain rfl : skip = 0 := Nat.le_zero.mp h
      rfl
  | cons c s ih =>
      cases skip with
      | zero => rfl
      | succ skip =>
          rw [matchesFrom, ih _ (Nat.le_of_succ_le_succ h), Nat.add_assoc, Nat.add_comm 1]
          rfl

theorem matchesFrom_of_eq_none {p : Pattern} (offset : Nat) (h : p.length? (c :: s) = none) :
  p.matchesFrom offset 0 (c :: s) = p.matchesFrom (offset + 1) 0 s
  := by
  rw [matchesFrom, h]

theorem matchesFrom_of_eq_some {p : Pattern} (offset : Nat) {n : Nat}
    (h : p.length? (c :: s) = some (n + 1)) :
  p.matchesFrom offset 0 (c :: s) =
    ⟨offset, c :: s.take n⟩ :: p.matchesFrom (offset + (n + 1)) 0 (s.drop n)
  := by
  have hle := Nat.le_of_succ_le_succ (le_length_of_length? h)
  rw [Nat.add_comm n, ← Nat.add_assoc, ← matchesFrom_eq_drop p _ hle, matchesFrom, h]
  rfl

/-- A statement on the matches in a text, established from place to place. -/
theorem matchesFrom_induction {p : Pattern} (hp : p.Consuming)
    {motive : Nat → Text → List Match → Prop} (nil : ∀ offset, motive offset [] [])
    (fails : ∀ offset c s, p.length? (c :: s) = none →
      motive (offset + 1) s (p.matchesFrom (offset + 1) 0 s) →
      motive offset (c :: s) (p.matchesFrom (offset + 1) 0 s))
    (found : ∀ offset c s n, p.length? (c :: s) = some (n + 1) →
      motive (offset + (n + 1)) (s.drop n) (p.matchesFrom (offset + (n + 1)) 0 (s.drop n)) →
      motive offset (c :: s)
        (⟨offset, c :: s.take n⟩ :: p.matchesFrom (offset + (n + 1)) 0 (s.drop n)))
    (offset : Nat) (s : Text) :
  motive offset s (p.matchesFrom offset 0 s)
  := by
  induction hlen : s.length using Nat.strongRecOn generalizing offset s with
  | ind len ih =>
      cases s with
      | nil =>
          rw [matchesFrom, hp.length?_nil]
          apply nil
      | cons c s =>
          subst hlen
          cases h : p.length? (c :: s) with
          | none =>
              rw [matchesFrom_of_eq_none offset h]
              apply fails offset c s h
              apply ih s.length (Nat.lt_succ_self _) _ s rfl
          | some n =>
              obtain ⟨n, rfl⟩ := Nat.exists_eq_succ_of_ne_zero (Nat.ne_of_gt (hp _ n h))
              rw [matchesFrom_of_eq_some offset h]
              apply found offset c s n h
              apply ih (s.drop n).length _ _ _ rfl
              rw [List.length_drop, List.length_cons]
              omega

/-- A place at which a pattern matches lies in one of the matches, though not always at its
beginning. -/
theorem exists_mem_matchesFrom {p : Pattern} (hp : p.Consuming) (offset : Nat) (s : Text)
    {i n : Nat} (h : p.length? (s.drop i) = some n) :
  ∃ m ∈ p.matchesFrom offset 0 s,
    m.offset ≤ offset + i ∧ offset + i < m.offset + m.text.length
  := by
  induction offset, s using matchesFrom_induction hp generalizing i with
  | nil offset =>
      rw [List.drop_nil, hp.length?_nil] at h
      cases h
  | fails offset c s hnone ih =>
      cases i with
      | zero =>
          rw [List.drop_zero, hnone] at h
          cases h
      | succ i =>
          obtain ⟨m, hm, hle, hlt⟩ := ih h
          exact ⟨m, hm, by omega, by omega⟩
  | found offset c s m hsome ih =>
      have hlen : (c :: s.take m).length = m + 1 :=
        List.length_take_of_le (l := c :: s) (le_length_of_length? hsome)
      by_cases hi : i ≤ m
      · refine ⟨⟨offset, c :: s.take m⟩, List.mem_cons_self, Nat.le_add_right offset i, ?_⟩
        rw [hlen]
        apply Nat.add_lt_add_left (Nat.lt_succ_of_le hi)
      · obtain ⟨j, rfl⟩ := Nat.exists_eq_add_of_lt (Nat.lt_of_not_le hi)
        rw [List.drop_succ_cons, ← List.drop_drop] at h
        obtain ⟨m', hm', hle, hlt⟩ := ih h
        exact ⟨m', List.mem_cons_of_mem _ hm', by omega, by omega⟩

theorem exists_mem_matchesIn {p : Pattern} (hp : p.Consuming) (u : Text)
    (h : p.length? s ≠ none) :
  ∃ m ∈ p.matchesIn (u ++ s), m.offset ≤ u.length ∧ u.length < m.offset + m.text.length
  := by
  obtain ⟨n, hn⟩ := Option.ne_none_iff_exists'.mp h
  have hdrop : (u ++ s).drop u.length = s := List.drop_left
  rw [← hdrop] at hn
  rw [matchesIn_eq]
  have hplace := exists_mem_matchesFrom hp 0 (u ++ s) hn
  rw [Nat.zero_add] at hplace
  exact hplace

/-! ### Finding nothing -/

theorem matchesFrom_eq_nil_iff {p : Pattern} {offset : Nat} :
  p.matchesFrom offset 0 s = [] ↔ ∀ t, t <:+ s → p.length? t = none
  := by
  induction s generalizing offset with
  | nil =>
      rw [matchesFrom]
      cases h : p.length? [] with
      | none => simp [h]
      | some n => simp [h]
  | cons c s ih =>
      rw [matchesFrom]
      cases h : p.length? (c :: s) with
      | none =>
          simp only [ih, List.suffix_cons_iff]
          constructor
          · rintro hs t (rfl | ht)
            · exact h
            · apply hs t ht
          · intro hs t ht
            apply hs t (Or.inr ht)
      | some n =>
          constructor
          · rintro ⟨⟩
          · intro hs
            have hnone := hs (c :: s) List.suffix_rfl
            rw [h] at hnone
            cases hnone

/-- A pattern finds nothing if and only if it fails everywhere. -/
theorem matchesIn_eq_nil_iff {p : Pattern} {line : Text} :
  p.matchesIn line = [] ↔ ∀ t, t <:+ line → p.length? t = none
  := by
  rw [matchesIn_eq]
  apply matchesFrom_eq_nil_iff

/-- A pattern finds nothing if and only if all neighbours are as they should be. -/
theorem matchesIn_eq_nil_iff_isChain {p : Pattern} {R : Char → Char → Prop}
    (hnil : p.length? [] = none)
    (hcons : ∀ c s, p.length? s = none →
      (p.length? (c :: s) = none ↔ ∀ d ∈ s.head?, R c d))
    (line : Text) :
  p.matchesIn line = [] ↔ line.IsChain R
  := by
  rw [matchesIn_eq_nil_iff]
  induction line with
  | nil => simp [hnil]
  | cons c s ih =>
      rw [List.isChain_cons, ← ih]
      constructor
      · intro h
        have hs : ∀ t, t <:+ s → p.length? t = none := by
          intro t ht
          apply h t (ht.trans (List.suffix_cons c s))
        exact ⟨(hcons c s (hs s List.suffix_rfl)).mp (h _ List.suffix_rfl), hs⟩
      · rintro ⟨hhead, hs⟩ t ht
        rcases List.suffix_cons_iff.mp ht with rfl | ht
        · apply (hcons c s (hs s List.suffix_rfl)).mpr hhead
        · apply hs t ht

end Pattern

end JapaneseProse
