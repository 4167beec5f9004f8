import JapaneseProse.Proofs.Text.Spans
import JapaneseProse.Rule.LineHead

/-!
# The head of a line

A line that is not empty begins with a space or an opening bracket if and only if nothing is
found (`lint_eq_nil_iff`), and this is so when the indent is put in front
(`indented_fix`).
-/

namespace JapaneseProse.LineHead

variable {spaces leftBrackets : List Text} {indent line : Text}

/-- The line is empty, or it begins with a space or an opening bracket. -/
def Indented (spaces leftBrackets : List Text) (line : Text) : Prop :=
  ∀ c ∈ line.head?, (CharClass.ofEntries spaces).contains c = true ∨
    (CharClass.ofEntries leftBrackets).contains c = true

theorem lacksIndent_eq_false_iff :
  lacksIndent spaces leftBrackets line = false ↔ Indented spaces leftBrackets line
  := by
  cases line with
  | nil => simp [lacksIndent, Indented]
  | cons c line =>
      have houtside : (CharClass.outside (spaces ++ leftBrackets)).contains c =
          !(CharClass.ofEntries (spaces ++ leftBrackets)).contains c := by
        cases h : (spaces ++ leftBrackets).flatten.contains c <;>
          simp [CharClass.contains, CharClass.outside, CharClass.ofEntries]
      simp only [lacksIndent, houtside, Bool.not_eq_false', Indented, List.head?_cons,
        Option.mem_some_iff, forall_eq', CharClass.contains_ofEntries_append]

theorem lint_eq_nil_iff {number : Nat} :
  lint spaces leftBrackets number line = [] ↔ Indented spaces leftBrackets line
  := by
  rw [← lacksIndent_eq_false_iff, lint]
  cases lacksIndent spaces leftBrackets line <;> simp

theorem fix_of_indented (h : Indented spaces leftBrackets line) :
  fix spaces leftBrackets indent line = line
  := by
  rw [fix, lacksIndent_eq_false_iff.mpr h]
  rfl

theorem fix_of_not_indented (h : ¬Indented spaces leftBrackets line) :
  fix spaces leftBrackets indent line = indent ++ line
  := by
  rw [← lacksIndent_eq_false_iff, Bool.not_eq_false] at h
  rw [fix, h, if_pos rfl]

/-- With a space as the indent, no line lacks it afterwards. -/
theorem indented_fix {g : Char} (hg : (CharClass.ofEntries spaces).contains g = true)
    (leftBrackets : List Text) (line : Text) :
  Indented spaces leftBrackets (fix spaces leftBrackets [g] line)
  := by
  by_cases h : Indented spaces leftBrackets line
  · rw [fix_of_indented h]
    exact h
  · rw [fix_of_not_indented h]
    intro c hc
    left
    obtain rfl : g = c := by simpa using hc
    exact hg

/-! ### Spans -/

/-- What is reported is the first character of the line. -/
theorem exists_lint (spaces leftBrackets : List Text) (line : Text) :
  ∃ ms, Placed 0 ms line ∧ (∀ m ∈ ms, m.text ≠ []) ∧
    ∀ number, lint spaces leftBrackets number line =
      ms.map (Finding.ofMatch number .missingIndent)
  := by
  cases hlacks : lacksIndent spaces leftBrackets line with
  | false =>
      refine ⟨[], .nil 0 line, fun m hm => absurd hm List.not_mem_nil, ?_⟩
      intro number
      rw [lint, hlacks]
      rfl
  | true =>
      cases line with
      | nil => exact absurd hlacks Bool.false_ne_true
      | cons c s =>
          refine ⟨[⟨0, [c]⟩], .head (n := 1) (s := c :: s) (Nat.le_add_left 1 _) (.nil 1 s), ?_, ?_⟩
          · simp
          · intro number
            rw [lint, hlacks]
            rfl

end JapaneseProse.LineHead
