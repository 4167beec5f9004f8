import JapaneseProse.Proofs.Text.Columns
import JapaneseProse.Proofs.Text.Cursor

/-!
# Characters of a class in a given quantity

One character of a class is looked for, or several, or perhaps none (`Quantity`).  What is found in
a line can be told by its columns: single characters (`IsCharacter`), maximal runs (`IsRun`), and
nothing in the columns without a character of the class (`IsNothing`).

* `mem_matchesFrom_iff`: what is found is known if it is known from each place of the cursor to the
  next.
* `isNothing_iff`, `isRun_iff`, `isCharacter_iff`: what there is to be found between two places of
  the cursor.
* `mem_matchesIn_runs`, `mem_matchesIn_characters`: runs are found as a whole, characters one by one.
* `Quantity.scanned_completely`: a search comes to an end and finds, from left to right, all that is
  to be found in the line and nothing else, less what is excluded.
-/

namespace JapaneseProse

variable {k : CharClass} {s : Text} {m : Match} {cursor least : Nat}

/-- How many characters of a class are looked for. -/
inductive Quantity where
  | one
  | oneOrMore
  | anyNumber
  | atMostOne
  | twoOrMore
deriving DecidableEq, Repr

/-- So many characters of a class. -/
def Quantity.pattern (q : Quantity) (k : CharClass) : Pattern :=
  match q with
  | one => .single k
  | oneOrMore => .run k
  | anyNumber => .stretch k 0 none
  | atMostOne => .stretch k 0 (some 1)
  | twoOrMore => .longRun k

/-! ### What there is to be found -/

/-- A character of the class in its column. -/
structure IsCharacter (k : CharClass) (s : Text) (m : Match) : Prop where
  holdsAt : k.HoldsAt s m.offset
  text_eq : m.text = s.extract m.offset (m.offset + 1)

/-- Characters of the class in a row that cannot be made longer on either side. -/
structure IsRun (k : CharClass) (s : Text) (m : Match) : Prop where
  ne_nil : m.text ≠ []
  isStretch : IsStretch k s m.offset (m.offset + m.text.length)
  not_holdsAt_before : ∀ i, i + 1 = m.offset → ¬k.HoldsAt s i
  text_eq : m.text = s.extract m.offset (m.offset + m.text.length)

/-- Nothing, in a column without a character of the class or behind the line. -/
structure IsNothing (k : CharClass) (s : Text) (m : Match) : Prop where
  text_eq : m.text = []
  le_length : m.offset ≤ s.length
  not_holdsAt : ¬k.HoldsAt s m.offset

/-- What is to be found of a class in a line. -/
def Quantity.Finds (q : Quantity) (k : CharClass) (s : Text) (m : Match) : Prop :=
  match q with
  | one => IsCharacter k s m
  | oneOrMore => IsRun k s m
  | anyNumber => IsRun k s m ∨ IsNothing k s m
  | atMostOne => IsCharacter k s m ∨ IsNothing k s m
  | twoOrMore => IsRun k s m ∧ 2 ≤ m.text.length

/-- The characters of a class from a column on, as many as there are. -/
def runAt (k : CharClass) (s : Text) (i : Nat) : Match :=
  ⟨i, (s.drop i).take (Pattern.runLength k (s.drop i))⟩

theorem length_runAt (k : CharClass) (s : Text) (i : Nat) :
  (runAt k s i).text.length = Pattern.runLength k (s.drop i)
  := List.length_take_of_le (Pattern.runLength_le k _)

theorem text_runAt (k : CharClass) (s : Text) (i : Nat) :
  (runAt k s i).text = s.extract i (i + Pattern.runLength k (s.drop i))
  := by
  rw [List.extract_eq_take_drop, Nat.add_sub_cancel_left]
  rfl

namespace IsRun

theorem holdsAt (h : IsRun k s m) :
  k.HoldsAt s m.offset
  := by
  have hpos := List.length_pos_iff.mpr h.ne_nil
  apply h.isStretch.holdsAt m.offset (Nat.le_refl _) (by omega)

/-- A run is known by the column in which it begins. -/
theorem eq_runAt (h : IsRun k s m) :
  m = runAt k s m.offset
  := by
  have hlength := Nat.add_left_cancel (isStretch_iff.mp h.isStretch)
  have htext : m.text = (runAt k s m.offset).text := by
    rw [text_runAt, ← hlength, ← h.text_eq]
  exact congrArg (Match.mk m.offset) htext

/-- No run begins within a stretch of characters of its class. -/
theorem offset_eq {i j : Nat} (h : IsRun k s m) (hij : IsStretch k s i j) (hle : i ≤ m.offset)
    (hlt : m.offset < j) :
  m.offset = i
  := by
  by_contra hne
  apply h.not_holdsAt_before (m.offset - 1) (by omega)
  apply hij.holdsAt _ (by omega) (by omega)

end IsRun

/-! ### From one place of the cursor to the next -/

namespace Pattern

/-- What is found is known if, from each place where the cursor may stand, it is known up to the
next one. -/
theorem mem_matchesFrom_iff {p : Pattern} {MayStand : Nat → Prop} {Found : Match → Prop}
    (hend : ∀ m, Found m → m.offset ≤ s.length)
    (hstep : ∀ cursor, MayStand cursor → cursor ≤ s.length →
      ∃ next, cursor < next ∧ MayStand next ∧ ∀ m, m ∈ p.matchesFrom 0 cursor s ↔
        (cursor ≤ m.offset ∧ m.offset < next ∧ Found m) ∨ m ∈ p.matchesFrom 0 next s)
    (h : MayStand cursor) (m : Match) :
  m ∈ p.matchesFrom 0 cursor s ↔ cursor ≤ m.offset ∧ Found m
  := by
  induction hleft : s.length + 1 - cursor using Nat.strongRecOn generalizing cursor with
  | ind left ih =>
      rcases Nat.lt_or_ge s.length cursor with hlt | hle
      · rw [matchesFrom_of_length_lt 0 hlt]
        constructor
        · exact fun hm => absurd hm List.not_mem_nil
        · rintro ⟨hoffset, hm⟩
          have hlength := hend m hm
          omega
      · obtain ⟨next, hnext, hstand, hmem⟩ := hstep cursor h hle
        rw [hmem, ih (s.length + 1 - next) (by omega) hstand rfl]
        constructor
        · rintro (⟨hoffset, -, hm⟩ | ⟨hoffset, hm⟩)
          · exact ⟨hoffset, hm⟩
          · exact ⟨by omega, hm⟩
        · rintro ⟨hoffset, hm⟩
          rcases Nat.lt_or_ge m.offset next with hlt | hge
          · exact .inl ⟨hoffset, hlt, hm⟩
          · exact .inr ⟨hge, hm⟩

theorem mem_matchesIn_iff {p : Pattern} (MayStand : Nat → Prop) {Found : Match → Prop}
    (hstart : MayStand 0) (hend : ∀ m, Found m → m.offset ≤ s.length)
    (hstep : ∀ cursor, MayStand cursor → cursor ≤ s.length →
      ∃ next, cursor < next ∧ MayStand next ∧ ∀ m, m ∈ p.matchesFrom 0 cursor s ↔
        (cursor ≤ m.offset ∧ m.offset < next ∧ Found m) ∨ m ∈ p.matchesFrom 0 next s)
    (m : Match) :
  m ∈ p.matchesIn s ↔ Found m
  := by
  rw [matchesIn_eq, mem_matchesFrom_iff hend hstep hstart]
  simp only [Nat.zero_le, true_and]

/-- In a column without a character of the class the pattern matches without taking anything, or it
fails. -/
theorem length?_of_not_holdsAt (least : Nat) (most : Option Nat) (h : ¬k.HoldsAt s cursor) :
  (stretch k least most).length? (s.drop cursor) = if least = 0 then some 0 else none
  := by
  have hrun : runLength k (s.drop cursor) = 0 := by
    rw [CharClass.holdsAt_iff] at h
    omega
  rw [length?_eq]
  cases most with
  | none => simp only [lengths, hrun, head?_countDown, Nat.le_zero]
  | some n => simp only [lengths, hrun, head?_countDown, Nat.zero_min, Nat.le_zero]

/-- A column without a character of the class holds only nothing to be found, if what else there is
to be found begins with such a character. -/
theorem isNothing_iff {Found : Match → Prop} (hFound : ∀ m, Found m → k.HoldsAt s m.offset)
    (hle : cursor ≤ s.length) (h : ¬k.HoldsAt s cursor) :
  (cursor ≤ m.offset ∧ m.offset < cursor + 1 ∧ (Found m ∨ (least = 0 ∧ IsNothing k s m))) ↔
    least = 0 ∧ m = ⟨cursor, []⟩
  := by
  constructor
  · rintro ⟨hoffset, hlt, hm⟩
    obtain rfl : cursor = m.offset := by omega
    rcases hm with hm | ⟨hleast, hm⟩
    · exact absurd (hFound m hm) h
    · exact ⟨hleast, by rw [← hm.text_eq]⟩
  · rintro ⟨hleast, rfl⟩
    exact ⟨Nat.le_refl _, Nat.lt_succ_self _, .inr ⟨hleast, rfl, hle, h⟩⟩

/-- Nothing is found in a column without a character of the class, if that is enough. -/
theorem mem_matchesFrom_of_not_holdsAt {most : Option Nat} {Found : Match → Prop}
    (hFound : ∀ m, Found m → k.HoldsAt s m.offset) (hle : cursor ≤ s.length)
    (h : ¬k.HoldsAt s cursor) :
  m ∈ (stretch k least most).matchesFrom 0 cursor s ↔
    (cursor ≤ m.offset ∧ m.offset < cursor + 1 ∧ (Found m ∨ (least = 0 ∧ IsNothing k s m))) ∨
      m ∈ (stretch k least most).matchesFrom 0 (cursor + 1) s
  := by
  have hlength := length?_of_not_holdsAt least most h
  rw [isNothing_iff hFound hle h]
  by_cases hleast : least = 0
  · rw [if_pos hleast] at hlength
    rw [matchesFrom_of_succeeds hle hlength, List.mem_cons, List.take_zero, Nat.zero_max]
    simp only [hleast, true_and]
  · rw [if_neg hleast] at hlength
    rw [matchesFrom_succ_of_fails 0 hlength]
    simp only [hleast, false_and, false_or]

/-! ### Runs -/

/-- The cursor may stand where no run goes on. -/
def StandsOutside (k : CharClass) (s : Text) (cursor : Nat) : Prop :=
  ∀ i, i + 1 = cursor → k.HoldsAt s i → ¬k.HoldsAt s cursor

/-- Where the cursor may stand, the characters of the class from there on are a run. -/
theorem isRun_runAt (hstand : StandsOutside k s cursor) (h : k.HoldsAt s cursor) :
  IsRun k s (runAt k s cursor)
  := by
  have hpos := CharClass.holdsAt_iff.mp h
  constructor
  · apply List.ne_nil_of_length_pos
    rw [length_runAt]
    exact hpos
  · rw [length_runAt]
    apply IsStretch.of_runLength
  · intro i hi hbefore
    apply hstand i hi hbefore h
  · rw [length_runAt]
    apply text_runAt

/-- From where the cursor stands to the end of the run there, that run is all there is to be
found. -/
theorem isRun_iff (hstand : StandsOutside k s cursor) (h : k.HoldsAt s cursor) :
  (cursor ≤ m.offset ∧ m.offset < cursor + runLength k (s.drop cursor) ∧
      ((IsRun k s m ∧ least ≤ m.text.length) ∨ (least = 0 ∧ IsNothing k s m))) ↔
    least ≤ runLength k (s.drop cursor) ∧ m = runAt k s cursor
  := by
  have hrun := IsStretch.of_runLength k s cursor
  constructor
  · rintro ⟨hle, hlt, ⟨hm, hleast⟩ | ⟨-, hm⟩⟩
    · have heq := hm.eq_runAt
      rw [hm.offset_eq hrun hle hlt] at heq
      subst heq
      rw [length_runAt] at hleast
      exact ⟨hleast, rfl⟩
    · exact absurd (hrun.holdsAt _ hle hlt) hm.not_holdsAt
  · rintro ⟨hleast, rfl⟩
    refine ⟨Nat.le_refl _, Nat.lt_add_of_pos_right (CharClass.holdsAt_iff.mp h), .inl ⟨?_, ?_⟩⟩
    · apply isRun_runAt hstand h
    · rw [length_runAt]
      exact hleast

/-- The run at the cursor is found if it is long enough. -/
theorem mem_matchesFrom_run (hstand : StandsOutside k s cursor) (h : k.HoldsAt s cursor) :
  m ∈ (stretch k least none).matchesFrom 0 cursor s ↔
    (cursor ≤ m.offset ∧ m.offset < cursor + runLength k (s.drop cursor) ∧
      ((IsRun k s m ∧ least ≤ m.text.length) ∨ (least = 0 ∧ IsNothing k s m))) ∨
      m ∈ (stretch k least none).matchesFrom 0 (cursor + runLength k (s.drop cursor)) s
  := by
  have hpos := CharClass.holdsAt_iff.mp h
  have hle := Nat.le_of_lt h.lt_length
  rw [isRun_iff hstand h]
  by_cases hleast : least ≤ runLength k (s.drop cursor)
  · rw [matchesFrom_of_succeeds hle (length?_stretch_eq_some_iff.mpr ⟨hleast, rfl⟩), List.mem_cons,
      Nat.max_eq_left hpos, runAt]
    simp only [hleast, true_and]
  · -- The run is too short, and so is what is left of it further on.
    rw [matchesFrom_of_fails_between (Nat.le_add_right cursor (runLength k (s.drop cursor)))]
    · simp only [hleast, false_and, false_or]
    · intro j hj hlt
      obtain ⟨n, rfl⟩ := Nat.exists_eq_add_of_le hj
      rw [length?_stretch_eq_none_iff, ← List.drop_drop, runLength_drop k (by omega)]
      omega

/-- Of the runs, those that are long enough are found, and between them nothing if that is
enough. -/
theorem mem_matchesIn_runs :
  m ∈ (stretch k least none).matchesIn s ↔
    (IsRun k s m ∧ least ≤ m.text.length) ∨ (least = 0 ∧ IsNothing k s m)
  := by
  have hholds : ∀ m, IsRun k s m ∧ least ≤ m.text.length → k.HoldsAt s m.offset :=
    fun m hm => hm.1.holdsAt
  apply mem_matchesIn_iff (StandsOutside k s)
  · intro i hi
    exact absurd hi (Nat.succ_ne_zero i)
  · rintro m (hm | ⟨-, hm⟩)
    · apply Nat.le_of_lt (hholds m hm).lt_length
    · exact hm.le_length
  · intro cursor hstand hle
    by_cases h : k.HoldsAt s cursor
    · have hpos := CharClass.holdsAt_iff.mp h
      refine ⟨cursor + runLength k (s.drop cursor), by omega, ?_, fun m => ?_⟩
      · intro i _ _
        apply (IsStretch.of_runLength k s cursor).not_holdsAt
      · apply mem_matchesFrom_run hstand h
    · refine ⟨cursor + 1, Nat.lt_succ_self _, ?_, fun m => ?_⟩
      · intro i hi hbefore
        obtain rfl := Nat.succ.inj hi
        exact absurd hbefore h
      · apply mem_matchesFrom_of_not_holdsAt hholds hle h

/-! ### Characters -/

theorem isCharacter_iff (h : k.HoldsAt s cursor) :
  (cursor ≤ m.offset ∧ m.offset < cursor + 1 ∧
      (IsCharacter k s m ∨ (least = 0 ∧ IsNothing k s m))) ↔
    m = ⟨cursor, (s.drop cursor).take 1⟩
  := by
  have hextract : s.extract cursor (cursor + 1) = (s.drop cursor).take 1 := by
    rw [List.extract_eq_take_drop, Nat.add_sub_cancel_left]
  constructor
  · rintro ⟨hoffset, hlt, hm⟩
    obtain rfl : cursor = m.offset := by omega
    rcases hm with hm | ⟨-, hm⟩
    · rw [← hextract, ← hm.text_eq]
    · exact absurd h hm.not_holdsAt
  · rintro rfl
    exact ⟨Nat.le_refl _, Nat.lt_succ_self _, .inl ⟨h, hextract.symm⟩⟩

/-- Every character of the class is found, and between them nothing if that is enough. -/
theorem mem_matchesIn_characters (hleast : least ≤ 1) :
  m ∈ (stretch k least (some 1)).matchesIn s ↔
    IsCharacter k s m ∨ (least = 0 ∧ IsNothing k s m)
  := by
  apply mem_matchesIn_iff (fun _ => True) trivial
  · rintro m (hm | ⟨-, hm⟩)
    · apply Nat.le_of_lt hm.holdsAt.lt_length
    · exact hm.le_length
  · intro cursor _ hle
    refine ⟨cursor + 1, Nat.lt_succ_self _, trivial, fun m => ?_⟩
    by_cases h : k.HoldsAt s cursor
    · have hpos := CharClass.holdsAt_iff.mp h
      have hlength : (stretch k least (some 1)).length? (s.drop cursor) = some 1 := by
        have hmin : min (runLength k (s.drop cursor)) 1 = 1 := by omega
        rw [length?_eq]
        simp only [lengths, hmin, head?_countDown, if_pos hleast]
      rw [matchesFrom_of_succeeds hle hlength, List.mem_cons, isCharacter_iff h]
      rfl
    · apply mem_matchesFrom_of_not_holdsAt (fun m hm => hm.holdsAt) hle h

end Pattern

/-! ### All that is to be found -/

/-- From left to right, these are the matches to be found. -/
structure Enumerates (ms : List Match) (Found : Match → Prop) : Prop where
  pairwise : ms.Pairwise fun a b => a.offset < b.offset
  mem_iff : ∀ m, m ∈ ms ↔ Found m

namespace Quantity

variable {q q' : Quantity} {k' : CharClass}

theorem mem_matchesIn_iff :
  m ∈ (q.pattern k).matchesIn s ↔ q.Finds k s m
  := by
  cases q with
  | one =>
      apply (Pattern.mem_matchesIn_characters (Nat.le_refl 1)).trans
      simp [Finds]
  | oneOrMore =>
      apply Pattern.mem_matchesIn_runs.trans
      simp only [Finds, Nat.one_ne_zero, false_and, or_false, and_iff_left_iff_imp]
      intro hm
      apply List.length_pos_iff.mpr hm.ne_nil
  | anyNumber =>
      apply Pattern.mem_matchesIn_runs.trans
      simp [Finds]
  | atMostOne =>
      apply (Pattern.mem_matchesIn_characters (Nat.zero_le 1)).trans
      simp [Finds]
  | twoOrMore =>
      apply Pattern.mem_matchesIn_runs.trans
      simp [Finds]

theorem enumerates_matchesIn (q : Quantity) (k : CharClass) (s : Text) :
  Enumerates ((q.pattern k).matchesIn s) (q.Finds k s)
  := ⟨(q.pattern k).pairwise_matchesIn s, fun _ => mem_matchesIn_iff⟩

/-- A pattern does not occur in a text if there is nothing to be found. -/
theorem occursIn_eq_false_iff :
  (q.pattern k).occursIn s = false ↔ ∀ m, ¬q.Finds k s m
  := by
  rw [← Bool.not_eq_true, Pattern.occursIn_iff, not_not, List.eq_nil_iff_forall_not_mem]
  simp only [mem_matchesIn_iff]

/-- What is excluded is left out, and the other matches stay where they are. -/
theorem enumerates_matchesWithout (q q' : Quantity) (k k' : CharClass) (s : Text) :
  Enumerates ((q.pattern k).matchesWithout (q'.pattern k') s)
    fun m => q.Finds k s m ∧ ∀ m', ¬q'.Finds k' m.text m'
  := by
  constructor
  · apply List.Pairwise.filter _ ((q.pattern k).pairwise_matchesIn s)
  · intro m
    rw [Pattern.matchesWithout, List.mem_filter, mem_matchesIn_iff, Bool.not_eq_true',
      occursIn_eq_false_iff]

/-- Whatever the class and the quantity, a search through a line comes to an end, and from left to
right it finds all that is to be found and nothing else.  If a pattern is to be excluded, the
matches in whose texts there is something to be found of it are left out. -/
theorem scanned_completely (q : Quantity) (k : CharClass) (line : Text) :
  ((∀ ms, (q.pattern k).Scans none line 0 ms ↔ ms = (q.pattern k).matchesIn line) ∧
    Enumerates ((q.pattern k).matchesIn line) (q.Finds k line)) ∧
  ∀ (q' : Quantity) (k' : CharClass),
    (∀ ms, (q.pattern k).Scans (some (q'.pattern k')) line 0 ms ↔
      ms = (q.pattern k).matchesWithout (q'.pattern k') line) ∧
    Enumerates ((q.pattern k).matchesWithout (q'.pattern k') line)
      fun m => q.Finds k line m ∧ ∀ m', ¬q'.Finds k' m.text m'
  := by
  refine ⟨⟨fun ms => Pattern.scans_none_iff, enumerates_matchesIn q k line⟩, fun q' k' => ?_⟩
  exact ⟨fun ms => Pattern.scans_some_iff, enumerates_matchesWithout q q' k k' line⟩

/-- Behind the run nothing is found, though the line ends there. -/
example :
  (anyNumber.pattern ⟨['―'], false⟩).matchesIn ['あ', '―', '―'] =
    [⟨0, []⟩, ⟨1, ['―', '―']⟩, ⟨3, []⟩]
  := by decide

end Quantity

end JapaneseProse
