import JapaneseProse.Proofs.Text.Runs
import Mathlib.Data.Nat.Find

/-!
# Searching with a cursor

A line is searched from a cursor on (`Scans`).  The pattern is tried in the columns from the cursor
on, what is found first is recorded unless it is to be left out, and then the cursor stands behind
it, or one column further on if nothing was taken.

* `matchesFrom_of_fails_between`, `matchesFrom_of_succeeds`: the matches behind a cursor, by what the
  pattern does there.
* `scans_iff`: whatever the pattern, such a search comes to an end and records the matches that are
  not left out.
* `pairwise_matchesIn`: every match begins further right than those before it.
* `occursIn_iff`: a pattern occurs in a text if and only if it finds something there.
-/

namespace JapaneseProse.Pattern

variable {p : Pattern} {exclude : Option Pattern} {line s : Text} {cursor i n : Nat}
variable {ms : List Match} {m : Match}

/-- In the columns from the cursor on, the pattern matches in column `i` first, and takes `n`
characters. -/
structure IsFirst (p : Pattern) (line : Text) (cursor i n : Nat) : Prop where
  le : cursor ≤ i
  le_length : i ≤ line.length
  fails : ∀ j, cursor ≤ j → j < i → p.length? (line.drop j) = none
  succeeds : p.length? (line.drop i) = some n

/-- A match is left out if the pattern to be excluded, where there is one, occurs in its text. -/
def isLeftOut (exclude : Option Pattern) (m : Match) : Bool :=
  exclude.any fun q => q.occursIn m.text

/-- What is recorded when a line is searched from a cursor on. -/
inductive Scans (p : Pattern) (exclude : Option Pattern) (line : Text) :
    Nat → List Match → Prop where
  | stop {cursor : Nat}
      (hfails : ∀ i, cursor ≤ i → i ≤ line.length → p.length? (line.drop i) = none) :
      Scans p exclude line cursor []
  | recorded {cursor i n : Nat} {ms : List Match} (hfirst : IsFirst p line cursor i n)
      (hkept : isLeftOut exclude ⟨i, (line.drop i).take n⟩ = false)
      (h : Scans p exclude line (i + max n 1) ms) :
      Scans p exclude line cursor (⟨i, (line.drop i).take n⟩ :: ms)
  | leftOut {cursor i n : Nat} {ms : List Match} (hfirst : IsFirst p line cursor i n)
      (hleftOut : isLeftOut exclude ⟨i, (line.drop i).take n⟩ = true)
      (h : Scans p exclude line (i + max n 1) ms) :
      Scans p exclude line cursor ms

/-! ### The matches behind a cursor -/

/-- Behind the end of the line nothing is found. -/
theorem matchesFrom_of_length_lt (offset : Nat) (h : s.length < cursor) :
  p.matchesFrom offset cursor s = []
  := by
  induction s generalizing offset cursor with
  | nil =>
      obtain ⟨cursor, rfl⟩ := Nat.exists_eq_succ_of_ne_zero (Nat.ne_of_gt h)
      rfl
  | cons c s ih =>
      rw [List.length_cons] at h
      obtain ⟨cursor, rfl⟩ := Nat.exists_eq_succ_of_ne_zero (Nat.ne_of_gt (Nat.zero_lt_of_lt h))
      apply ih _ (Nat.lt_of_succ_lt_succ h)

/-- If the pattern fails at the cursor, the cursor moves on by one column. -/
theorem matchesFrom_succ_of_fails (offset : Nat) (h : p.length? (s.drop cursor) = none) :
  p.matchesFrom offset cursor s = p.matchesFrom offset (cursor + 1) s
  := by
  induction s generalizing offset cursor with
  | nil =>
      rw [List.drop_nil] at h
      cases cursor with
      | zero => simp only [matchesFrom, h]
      | succ cursor => rfl
  | cons c s ih =>
      cases cursor with
      | zero => apply matchesFrom_of_eq_none offset h
      | succ cursor => apply ih _ h

/-- Columns in which the pattern fails make no difference. -/
theorem matchesFrom_of_fails_between (hle : cursor ≤ i)
    (h : ∀ j, cursor ≤ j → j < i → p.length? (s.drop j) = none) :
  p.matchesFrom 0 cursor s = p.matchesFrom 0 i s
  := by
  induction i, hle using Nat.le_induction with
  | base => rfl
  | succ i hle ih =>
      rw [ih fun j hj hlt => h j hj (Nat.lt_succ_of_lt hlt)]
      apply matchesFrom_succ_of_fails 0 (h i hle (Nat.lt_succ_self i))

/-- If the pattern matches at the cursor, the cursor moves behind the match, or on by one column
if nothing is taken. -/
theorem matchesFrom_add_of_succeeds (offset : Nat) (hle : cursor ≤ s.length)
    (h : p.length? (s.drop cursor) = some n) :
  p.matchesFrom offset cursor s =
    ⟨offset + cursor, (s.drop cursor).take n⟩ :: p.matchesFrom offset (cursor + max n 1) s
  := by
  induction s generalizing offset cursor with
  | nil =>
      obtain rfl : cursor = 0 := Nat.le_zero.mp hle
      rw [List.drop_nil] at h
      have hend : ([] : Text).length < 0 + max n 1 := by
        rw [List.length_nil]
        omega
      rw [matchesFrom_of_length_lt offset hend, matchesFrom, h, List.drop_nil, List.take_nil,
        Nat.add_zero]
  | cons c s ih =>
      cases cursor with
      | zero =>
          have hmax : 0 + max n 1 = n - 1 + 1 := by omega
          rw [List.drop_zero] at h
          rw [matchesFrom, h, hmax]
          rfl
      | succ cursor =>
          rw [Nat.add_right_comm cursor 1, ← Nat.add_assoc, Nat.add_right_comm offset]
          apply ih _ (Nat.le_of_succ_le_succ hle) h

theorem matchesFrom_of_succeeds (hle : cursor ≤ s.length)
    (h : p.length? (s.drop cursor) = some n) :
  p.matchesFrom 0 cursor s =
    ⟨cursor, (s.drop cursor).take n⟩ :: p.matchesFrom 0 (cursor + max n 1) s
  := by
  rw [matchesFrom_add_of_succeeds 0 hle h, Nat.zero_add]

/-! ### Searches come to an end -/

theorem IsFirst.matchesFrom_eq (h : IsFirst p line cursor i n) :
  p.matchesFrom 0 cursor line =
    ⟨i, (line.drop i).take n⟩ :: p.matchesFrom 0 (i + max n 1) line
  := by
  rw [matchesFrom_of_fails_between h.le h.fails, matchesFrom_of_succeeds h.le_length h.succeeds]

/-- From a cursor on the pattern fails everywhere, or there is a column in which it matches first. -/
theorem exists_isFirst (p : Pattern) (line : Text) (cursor : Nat) :
  (∀ i, cursor ≤ i → i ≤ line.length → p.length? (line.drop i) = none) ∨
    ∃ i n, IsFirst p line cursor i n
  := by
  by_cases h : ∃ i, cursor ≤ i ∧ i ≤ line.length ∧ p.length? (line.drop i) ≠ none
  · right
    obtain ⟨hle, hlength, hne⟩ := Nat.find_spec h
    obtain ⟨n, hn⟩ := Option.ne_none_iff_exists'.mp hne
    refine ⟨Nat.find h, n, hle, hlength, fun j hj hlt => ?_, hn⟩
    by_contra hj'
    apply Nat.find_min h hlt ⟨hj, Nat.le_trans (Nat.le_of_lt hlt) hlength, hj'⟩
  · left
    intro i hle hlength
    by_contra hne
    apply h ⟨i, hle, hlength, hne⟩

/-- A search records the matches behind the cursor that are not left out. -/
theorem Scans.eq_filter (h : Scans p exclude line cursor ms) :
  ms = (p.matchesFrom 0 cursor line).filter fun m => !isLeftOut exclude m
  := by
  induction h with
  | @stop cursor hfails =>
      have hnil : p.matchesFrom 0 cursor line = [] := by
        rcases Nat.lt_or_ge line.length cursor with hlt | hle
        · apply matchesFrom_of_length_lt 0 hlt
        · rw [matchesFrom_of_fails_between (Nat.le_succ_of_le hle)
            fun j hj hlt => hfails j hj (Nat.le_of_lt_succ hlt)]
          apply matchesFrom_of_length_lt 0 (Nat.lt_succ_self _)
      rw [hnil, List.filter_nil]
  | recorded hfirst hkept _ ih =>
      rw [hfirst.matchesFrom_eq, List.filter_cons_of_pos (by rw [hkept]; rfl), ← ih]
  | leftOut hfirst hleftOut _ ih =>
      rw [hfirst.matchesFrom_eq, List.filter_cons_of_neg (by rw [hleftOut]; decide), ← ih]

/-- Wherever the cursor stands, the search comes to an end. -/
theorem exists_scans (p : Pattern) (exclude : Option Pattern) (line : Text) (cursor : Nat) :
  ∃ ms, Scans p exclude line cursor ms
  := by
  -- The columns between the cursor and the end of the line become fewer.
  induction hleft : line.length + 1 - cursor using Nat.strongRecOn generalizing cursor with
  | ind left ih =>
      rcases exists_isFirst p line cursor with hfails | ⟨i, n, hfirst⟩
      · exact ⟨[], .stop hfails⟩
      · have hle := hfirst.le
        have hlength := hfirst.le_length
        obtain ⟨ms, hms⟩ := ih (line.length + 1 - (i + max n 1)) (by omega) _ rfl
        cases hcase : isLeftOut exclude ⟨i, (line.drop i).take n⟩ with
        | false => exact ⟨_, .recorded hfirst hcase hms⟩
        | true => exact ⟨_, .leftOut hfirst hcase hms⟩

/-- The search comes to an end in one way, and records the matches behind the cursor that are not
left out. -/
theorem scans_iff :
  Scans p exclude line cursor ms ↔
    ms = (p.matchesFrom 0 cursor line).filter fun m => !isLeftOut exclude m
  := by
  constructor
  · exact Scans.eq_filter
  · rintro rfl
    obtain ⟨ms, hms⟩ := exists_scans p exclude line cursor
    rw [← hms.eq_filter]
    apply hms

theorem scans_none_iff :
  Scans p none line 0 ms ↔ ms = p.matchesIn line
  := by
  rw [scans_iff, matchesIn_eq]
  apply Eq.congr_right
  apply List.filter_eq_self.mpr
  intro m _
  rfl

theorem scans_some_iff {q : Pattern} :
  Scans p (some q) line 0 ms ↔ ms = p.matchesWithout q line
  := by
  rw [scans_iff, matchesWithout, matchesIn_eq]
  rfl

/-! ### The order of matches -/

theorem Scans.le_offset (h : Scans p exclude line cursor ms) :
  ∀ m ∈ ms, cursor ≤ m.offset
  := by
  induction h with
  | stop => exact List.forall_mem_nil _
  | recorded hfirst _ _ ih =>
      have hle := hfirst.le
      rw [List.forall_mem_cons]
      refine ⟨hle, fun m hm => ?_⟩
      have hbehind := ih m hm
      omega
  | leftOut hfirst _ _ ih =>
      intro m hm
      have hle := hfirst.le
      have hbehind := ih m hm
      omega

/-- What is recorded begins further right each time. -/
theorem Scans.pairwise (h : Scans p exclude line cursor ms) :
  ms.Pairwise fun a b => a.offset < b.offset
  := by
  induction h with
  | stop => exact .nil
  | @recorded cursor i n ms _ _ h ih =>
      apply List.Pairwise.cons _ ih
      intro m hm
      have hbehind := h.le_offset m hm
      change i < m.offset
      omega
  | leftOut _ _ _ ih => exact ih

/-- Every match begins further right than those before it. -/
theorem pairwise_matchesIn (p : Pattern) (line : Text) :
  (p.matchesIn line).Pairwise fun a b => a.offset < b.offset
  := (scans_none_iff.mpr rfl).pairwise

/-! ### Patterns that occur -/

theorem occursIn_eq_false_iff :
  p.occursIn s = false ↔ ∀ t, t <:+ s → p.length? t = none
  := by
  induction s with
  | nil => simp [occursIn]
  | cons c s ih =>
      rw [occursIn, Bool.or_eq_false_iff, ih, Option.isSome_eq_false_iff, Option.isNone_iff_eq_none]
      simp only [List.suffix_cons_iff, forall_eq_or_imp]

/-- A pattern occurs in a text if and only if it finds something there. -/
theorem occursIn_iff :
  p.occursIn s = true ↔ p.matchesIn s ≠ []
  := by
  rw [Ne, matchesIn_eq_nil_iff, ← occursIn_eq_false_iff, Bool.not_eq_false]

end JapaneseProse.Pattern
