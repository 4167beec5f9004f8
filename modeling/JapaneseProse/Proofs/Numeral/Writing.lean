import JapaneseProse.Numeral.Writing
import Mathlib.Data.List.GetD
import Mathlib.Tactic.IntervalCases

/-!
# The characters of written numbers

A number is given by digits and points (`numberChars`).  However it is written, it is written with
glyphs of these characters and of the characters of units, the `ink` of the glyphs
(`write_subset`).  There are no digits among them (`not_isDigit_of_mem_ink`).
-/

namespace JapaneseProse.Numeral

variable {digits number : Text} {groups : List Text} {g : Glyphs}

/-- The characters by which a number is given. -/
def numberChars : List Char := ['0', '1', '2', '3', '4', '5', '6', '7', '8', '9', '.']

/-- The characters of units. -/
def unitChars : List Char := ['十', '百', '千'] ++ myriadUnits.flatten

/-- The characters with which numbers are written. -/
def ink (g : Glyphs) : List Char := (numberChars ++ unitChars).map g.glyph

theorem mem_numberChars_of_isDigit {c : Char} (h : c.isDigit = true) :
  c ∈ numberChars
  := by
  rw [Char.isDigit, Bool.and_eq_true, decide_eq_true_eq, decide_eq_true_eq] at h
  obtain ⟨hlow, hhigh⟩ := h
  have hlow : 48 ≤ c.toNat := UInt32.le_iff_toNat_le.mp hlow
  have hhigh : c.toNat ≤ 57 := UInt32.le_iff_toNat_le.mp hhigh
  rw [← Char.ofNat_toNat c]
  interval_cases c.toNat <;> decide

theorem ne_point_of_isDigit (h : ∀ c ∈ digits, c.isDigit = true) :
  ∀ c ∈ digits, decide (c ≠ '.') = true
  := by
  intro c hc
  rw [decide_eq_true_eq]
  rintro rfl
  cases h '.' hc

/-! ### Units -/

theorem placeUnit_subset (place : Nat) :
  placeUnit place ⊆ unitChars
  := by
  fun_cases placeUnit place <;> decide

theorem groupUnit_subset (i : Nat) :
  groupUnit i ⊆ unitChars
  := by
  cases i with
  | zero => apply List.nil_subset _
  | succ i =>
      intro c hc
      apply List.mem_append_right
      apply List.mem_flatten.mpr
      rw [groupUnit, List.getD_eq_getElem _ _ (Nat.mod_lt i (by decide))] at hc
      exact ⟨_, List.getElem_mem _, hc⟩

/-! ### Groups of four -/

theorem flatten_chunksOfFour {α : Type} (l : List α) :
  (chunksOfFour l).flatten = l
  := by
  fun_induction chunksOfFour l with
  | case1 a b c d rest ih => rw [List.flatten_cons, ih]; rfl
  | case2 => rfl
  | case3 short => simp

theorem subset_of_mem_groupsOfFour {group : Text} (h : group ∈ groupsOfFour digits) :
  group ⊆ digits
  := by
  obtain ⟨chunk, hchunk, rfl⟩ := List.mem_map.mp h
  intro c hc
  rw [← List.mem_reverse, ← flatten_chunksOfFour digits.reverse]
  apply List.mem_flatten.mpr ⟨chunk, hchunk, List.mem_reverse.mp hc⟩

theorem groupsWithUnits_subset (i : Nat) (hgroups : ∀ group ∈ groups, group ⊆ numberChars) :
  groupsWithUnits i groups ⊆ numberChars ++ unitChars
  := by
  induction groups generalizing i with
  | nil => apply List.nil_subset _
  | cons group higher ih =>
      obtain ⟨hgroup, hhigher⟩ := List.forall_mem_cons.mp hgroups
      rw [groupsWithUnits]
      apply List.append_subset.mpr ⟨ih (i + 1) hhigher, _⟩
      apply List.append_subset.mpr
      constructor
      · apply List.subset_append_of_subset_left _ hgroup
      · apply List.subset_append_of_subset_right _ (groupUnit_subset i)

theorem digitWithUnits_subset (i place : Nat) {digit : Char} (h : digit ∈ numberChars) :
  digitWithUnits i place digit ⊆ numberChars ++ unitChars
  := by
  rw [digitWithUnits]
  split
  · apply List.nil_subset _
  · apply List.append_subset.mpr
    constructor
    · apply List.append_subset.mpr
      constructor
      · split
        · apply List.nil_subset _
        · apply List.cons_subset.mpr ⟨List.mem_append_left _ h, List.nil_subset _⟩
      · apply List.subset_append_of_subset_right _ (placeUnit_subset place)
    · split
      · apply List.subset_append_of_subset_right _ (groupUnit_subset i)
      · apply List.nil_subset _

theorem placesWithUnits_subset (i place : Nat) (h : digits ⊆ numberChars) :
  placesWithUnits i place digits ⊆ numberChars ++ unitChars
  := by
  induction digits generalizing place with
  | nil => apply List.nil_subset _
  | cons digit higher ih =>
      obtain ⟨hdigit, hhigher⟩ := List.cons_subset.mp h
      rw [placesWithUnits]
      apply List.append_subset.mpr
      exact ⟨ih (place + 1) hhigher, digitWithUnits_subset i place hdigit⟩

theorem groupsWithAllUnits_subset (i : Nat) (hgroups : ∀ group ∈ groups, group ⊆ numberChars) :
  groupsWithAllUnits i groups ⊆ numberChars ++ unitChars
  := by
  induction groups generalizing i with
  | nil => apply List.nil_subset _
  | cons group higher ih =>
      obtain ⟨hgroup, hhigher⟩ := List.forall_mem_cons.mp hgroups
      rw [groupsWithAllUnits]
      apply List.append_subset.mpr ⟨ih (i + 1) hhigher, _⟩
      apply placesWithUnits_subset
      intro c hc
      apply hgroup (List.mem_reverse.mp hc)

/-! ### The parts of a number -/

section

variable {s r : Text} (hdigits : ∀ c ∈ s, c.isDigit = true) (hr : ∀ c ∈ r.head?, c = '.')

include hdigits hr

/-- Digits in front of the first point are the part before it. -/
theorem integerPart_append :
  integerPart (s ++ r) = s
  := by
  have hpoint := ne_point_of_isDigit hdigits
  rw [integerPart, List.takeWhile_append_of_pos hpoint]
  cases r with
  | nil => rw [List.takeWhile_nil, List.append_nil]
  | cons c r =>
      obtain rfl := hr c rfl
      apply List.append_nil s

theorem decimalPart_append :
  decimalPart (s ++ r) = r
  := by
  have hpoint := ne_point_of_isDigit hdigits
  rw [decimalPart, List.dropWhile_append_of_pos hpoint]
  cases r with
  | nil => rfl
  | cons c r =>
      obtain rfl := hr c rfl
      rfl

end

/-! ### Written numbers -/

theorem writeSimple_subset (h : digits ⊆ numberChars ++ unitChars) :
  writeSimple g digits ⊆ ink g
  := List.map_subset _ h

theorem integerPart_subset (number : Text) :
  integerPart number ⊆ number
  := (List.takeWhile_prefix _).subset

theorem decimalPart_subset (number : Text) :
  decimalPart number ⊆ number
  := (List.dropWhile_suffix _).subset

/-- A number is written with the ink of its glyphs. -/
theorem write_subset (mode : Mode) (g : Glyphs) (h : number ⊆ numberChars) :
  write mode g number ⊆ ink g
  := by
  have hinteger := List.Subset.trans (integerPart_subset number) h
  have hgroups : ∀ group ∈ groupsOfFour (integerPart number), group ⊆ numberChars := by
    intro group hgroup
    apply List.Subset.trans (subset_of_mem_groupsOfFour hgroup) hinteger
  have hdecimal : decimalPart number ⊆ numberChars ++ unitChars := by
    apply List.subset_append_of_subset_left
    apply List.Subset.trans (decimalPart_subset number) h
  cases mode with
  | simple | dictate =>
      apply writeSimple_subset
      apply List.subset_append_of_subset_left _ h
  | moderate =>
      apply writeSimple_subset
      apply List.append_subset.mpr ⟨_, hdecimal⟩
      split
      · apply List.subset_append_of_subset_left _ hinteger
      · apply groupsWithUnits_subset 0 hgroups
  | verbose =>
      apply writeSimple_subset
      apply List.append_subset.mpr ⟨groupsWithAllUnits_subset 0 hgroups, hdecimal⟩

/-- No digit is left in a written number. -/
theorem not_isDigit_of_mem_ink {c : Char} (h : c ∈ ink g) :
  c.isDigit = false
  := by
  have hall : ((ink g).all fun d => !d.isDigit) = true := by
    cases g <;> decide
  have hc := List.all_eq_true.mp hall c h
  rw [Bool.not_eq_true'] at hc
  exact hc

end JapaneseProse.Numeral
