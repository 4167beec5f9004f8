import JapaneseProse.Text.Pattern

/-!
# Searching in long runs

A pattern that begins with a run of a class and fails at the head of the run also fails
further on in the run, because each way of matching there can be made into a way at the
head.  So a search need not try these places again.

* `Pattern.add_mem_lengths`: a way further on in the run is a way at the head.
* `Pattern.matchesIn_eq`: passing over these places does not change what is found.
-/

namespace JapaneseProse.Pattern

/-- The number of characters of the run of a class with which a pattern begins. -/
def headRun : Pattern → Text → Nat
  | stretch k _ none, s => runLength k s
  | stretch _ _ (some _), _ => 0
  | copies _, _ => 0
  | notBefore _, _ => 0
  | followedBy p _, s => p.headRun s

/-- The matches in a text that begins at `offset`, after `skip` more characters.  Where the
pattern fails, the rest of its run is passed over. -/
def search (p : Pattern) (offset : Nat) : Nat → Text → List Match
  | 0, [] =>
      match p.length? [] with
      | some _ => [⟨offset, []⟩]
      | none => []
  | _ + 1, [] => []
  | 0, c :: s =>
      match p.length? (c :: s) with
      | some n => ⟨offset, (c :: s).take n⟩ :: search p (offset + 1) (n - 1) s
      | none => search p (offset + 1) (p.headRun (c :: s) - 1) s
  | skip + 1, _ :: s => search p (offset + 1) skip s

/-- The matches of a pattern in a line, from left to right. -/
def matchesIn (p : Pattern) (line : Text) : List Match := p.search 0 0 line

/-- The matches of a pattern whose text does not contain a match of another. -/
def matchesWithout (p q : Pattern) (line : Text) : List Match :=
  (p.matchesIn line).filter fun m => !q.occursIn m.text

/-! ### The search finds the matches -/

theorem runLength_drop (k : CharClass) {n : Nat} {s : Text} (h : n ≤ runLength k s) :
  runLength k (s.drop n) = runLength k s - n
  := by
  induction n generalizing s with
  | zero => rfl
  | succ n ih =>
      cases s with
      | nil => simp [runLength] at h ⊢
      | cons c s =>
          by_cases hc : k.contains c = true
          · have hcons : runLength k (c :: s) = runLength k s + 1 := by simp [runLength, hc]
            rw [hcons] at h ⊢
            rw [List.drop_succ_cons, ih (Nat.le_of_succ_le_succ h)]
            omega
          · simp [runLength, hc] at h

theorem runLength_le (k : CharClass) (s : Text) :
  runLength k s ≤ s.length
  := (List.takeWhile_sublist _).length_le

theorem headRun_le (p : Pattern) (s : Text) :
  p.headRun s ≤ s.length
  := by
  induction p with
  | stretch k least most =>
      cases most with
      | none => exact runLength_le k s
      | some m => exact Nat.zero_le _
  | copies k => exact Nat.zero_le _
  | notBefore k => exact Nat.zero_le _
  | followedBy p q ih _ => exact ih

theorem mem_countDown {high low n : Nat} :
  n ∈ countDown high low ↔ low ≤ n ∧ n ≤ high
  := by
  rw [countDown, List.mem_reverse, List.mem_range'_1]
  omega

/-- A way further on in the run with which a pattern begins is a way at its head. -/
theorem add_mem_lengths {p : Pattern} {s : Text} {n i : Nat} (hn : n ≤ p.headRun s)
    (hi : i ∈ p.lengths (s.drop n)) :
  n + i ∈ p.lengths s
  := by
  induction p generalizing i with
  | stretch k least most =>
      cases most with
      | none =>
          change i ∈ countDown (runLength k (s.drop n)) least at hi
          change n + i ∈ countDown (runLength k s) least
          change n ≤ runLength k s at hn
          rw [runLength_drop k hn, mem_countDown] at hi
          rw [mem_countDown]
          omega
      | some m =>
          obtain rfl : n = 0 := Nat.le_zero.mp hn
          simpa using hi
  | copies k =>
      obtain rfl : n = 0 := Nat.le_zero.mp hn
      simpa using hi
  | notBefore k =>
      obtain rfl : n = 0 := Nat.le_zero.mp hn
      simpa using hi
  | followedBy p q ih _ =>
      obtain ⟨j, hj, hi⟩ := List.mem_flatMap.mp hi
      obtain ⟨l, hl, rfl⟩ := List.mem_map.mp hi
      rw [List.drop_drop] at hl
      apply List.mem_flatMap.mpr
      refine ⟨n + j, ih hn hj, List.mem_map.mpr ⟨l, hl, ?_⟩⟩
      omega

/-- A pattern that fails at the head of the run with which it begins fails further on. -/
theorem length?_drop_eq_none {p : Pattern} {s : Text} {n : Nat} (hn : n ≤ p.headRun s)
    (h : p.length? s = none) :
  p.length? (s.drop n) = none
  := by
  rw [length?_eq, List.head?_eq_none_iff] at h ⊢
  apply List.eq_nil_iff_forall_not_mem.mpr
  intro i hi
  have := add_mem_lengths hn hi
  rw [h] at this
  exact List.not_mem_nil this

/-- Places at which a pattern fails can be passed over. -/
theorem matchesFrom_of_fails {p : Pattern} {skip : Nat} (offset : Nat) {s : Text}
    (hlen : skip ≤ s.length) (h : ∀ n < skip, p.length? (s.drop n) = none) :
  p.matchesFrom offset skip s = p.matchesFrom offset 0 s
  := by
  induction skip generalizing offset s with
  | zero => rfl
  | succ skip ih =>
      cases s with
      | nil => simp at hlen
      | cons c s =>
          have hhead : p.length? (c :: s) = none := h 0 (Nat.succ_pos skip)
          have htail : ∀ n < skip, p.length? (s.drop n) = none := by
            intro n hn
            exact h (n + 1) (Nat.succ_lt_succ hn)
          change p.matchesFrom (offset + 1) skip s = p.matchesFrom offset 0 (c :: s)
          rw [ih _ (Nat.le_of_succ_le_succ hlen) htail, matchesFrom, hhead]

theorem search_eq_matchesFrom (p : Pattern) (offset skip : Nat) (s : Text) :
  p.search offset skip s = p.matchesFrom offset skip s
  := by
  induction s generalizing offset skip with
  | nil => cases skip <;> rfl
  | cons c s ih =>
      cases skip with
      | succ skip => exact ih ..
      | zero =>
          rw [search, matchesFrom]
          cases h : p.length? (c :: s) with
          | some n => simp only [ih]
          | none =>
              simp only [ih]
              have hle := p.headRun_le (c :: s)
              apply matchesFrom_of_fails
              · rw [List.length_cons] at hle
                omega
              · intro n hn
                exact length?_drop_eq_none (n := n + 1) (by omega) h

/-- What is found in a line are the matches from its beginning on. -/
theorem matchesIn_eq (p : Pattern) (line : Text) :
  p.matchesIn line = p.matchesFrom 0 0 line
  := search_eq_matchesFrom p 0 0 line

end JapaneseProse.Pattern
