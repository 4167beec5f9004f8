import JapaneseProse.Proofs.Text.Runs

/-!
# Columns of a line

Where the characters of a class stand in a line can be told by columns: a column holds a character
of the class or not (`HoldsAt`), and a stretch of columns that do goes on as far as it can
(`IsStretch`).

* `holdsAt_add_iff`: the columns from `i` on are those of the text from there on.
* `isStretch_iff`: the stretch from a column on is the run of the class there.
-/

namespace JapaneseProse

namespace CharClass

/-- A column of a line holds a character of a class; behind the line there is none. -/
def HoldsAt (k : CharClass) (s : Text) (i : Nat) : Prop :=
  ∃ c ∈ s[i]?, k.contains c = true

variable {k : CharClass} {s : Text} {i n : Nat}

theorem HoldsAt.lt_length (h : k.HoldsAt s i) :
  i < s.length
  := by
  obtain ⟨c, hc, -⟩ := h
  apply (List.getElem?_eq_some_iff.mp hc).1

/-- The columns from `i` on are those of the text from there on. -/
theorem holdsAt_add_iff :
  k.HoldsAt s (i + n) ↔ k.HoldsAt (s.drop i) n
  := by
  rw [HoldsAt, HoldsAt, List.getElem?_drop]

theorem holdsAt_zero_iff :
  k.HoldsAt s 0 ↔ 0 < Pattern.runLength k s
  := by
  rw [HoldsAt, ← List.head?_eq_getElem?, Pattern.runLength_pos_iff]

theorem holdsAt_iff :
  k.HoldsAt s i ↔ 0 < Pattern.runLength k (s.drop i)
  := by
  rw [← holdsAt_zero_iff, ← holdsAt_add_iff, Nat.add_zero]

end CharClass

/-- The columns from `i` up to `j` hold characters of a class, and column `j` does not. -/
structure IsStretch (k : CharClass) (s : Text) (i j : Nat) : Prop where
  le : i ≤ j
  holdsAt : ∀ x, i ≤ x → x < j → k.HoldsAt s x
  not_holdsAt : ¬k.HoldsAt s j

namespace IsStretch

variable {k : CharClass} {s : Text} {i j j' : Nat}

/-- The columns from `i` on determine how far a stretch goes. -/
theorem unique (h : IsStretch k s i j) (h' : IsStretch k s i j') :
  j = j'
  := by
  rcases Nat.lt_trichotomy j j' with hlt | heq | hlt
  · exact absurd (h'.holdsAt j h.le hlt) h.not_holdsAt
  · exact heq
  · exact absurd (h.holdsAt j' h'.le hlt) h'.not_holdsAt

/-- The run of a class is a stretch of columns. -/
theorem of_runLength (k : CharClass) (s : Text) (i : Nat) :
  IsStretch k s i (i + Pattern.runLength k (s.drop i))
  := by
  refine ⟨Nat.le_add_right i _, fun x hle hlt => ?_, ?_⟩
  · obtain ⟨n, rfl⟩ := Nat.exists_eq_add_of_le hle
    have hn : n < Pattern.runLength k (s.drop i) := by omega
    rw [CharClass.holdsAt_iff, ← List.drop_drop, Pattern.runLength_drop k (Nat.le_of_lt hn)]
    apply Nat.sub_pos_of_lt hn
  · rw [CharClass.holdsAt_iff, ← List.drop_drop, Pattern.runLength_drop k (Nat.le_refl _),
      Nat.sub_self]
    apply Nat.lt_irrefl

theorem le_length (h : IsStretch k s i j) (hi : i ≤ s.length) :
  j ≤ s.length
  := by
  rcases Nat.eq_or_lt_of_le h.le with rfl | hlt
  · exact hi
  · have hlast := (h.holdsAt (j - 1) (by omega) (by omega)).lt_length
    omega

end IsStretch

/-- The stretch from a column on is the run of the class there. -/
theorem isStretch_iff {k : CharClass} {s : Text} {i j : Nat} :
  IsStretch k s i j ↔ j = i + Pattern.runLength k (s.drop i)
  := by
  constructor
  · intro h
    apply h.unique (IsStretch.of_runLength k s i)
  · rintro rfl
    apply IsStretch.of_runLength

end JapaneseProse
