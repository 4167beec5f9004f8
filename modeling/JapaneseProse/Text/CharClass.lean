import JapaneseProse.Text.Basic

/-!
# Character classes

A class is given by a list of characters and either admits exactly these or admits
exactly the others.  A table of entries gives the class of all characters that occur
in its entries, so an entry of two characters stands for either of them.
-/

namespace JapaneseProse

/-- The characters listed, or those that are not. -/
structure CharClass where
  members : List Char
  negated : Bool := false
deriving DecidableEq, Repr

namespace CharClass

/-- Membership of a character in a class. -/
def contains (k : CharClass) (c : Char) : Bool :=
  k.members.contains c != k.negated

/-- The characters that occur in the entries of a table. -/
def ofEntries (entries : List Text) : CharClass := ⟨entries.flatten, false⟩

/-- The characters that occur in no entry of a table. -/
def outside (entries : List Text) : CharClass := ⟨entries.flatten, true⟩

/-- Every character but the line feed. -/
def withinLine : CharClass := ⟨['\n'], true⟩

theorem contains_ofEntries (entries : List Text) (c : Char) :
  (ofEntries entries).contains c = true ↔ ∃ e ∈ entries, c ∈ e
  := by
  simp [contains, ofEntries]

theorem contains_outside (entries : List Text) (c : Char) :
  (outside entries).contains c = true ↔ ∀ e ∈ entries, c ∉ e
  := by
  simp [contains, outside]

theorem contains_withinLine (c : Char) :
  withinLine.contains c = true ↔ c ≠ '\n'
  := by
  simp [contains, withinLine]

end CharClass

/-! ### Entries in patterns -/

/-- The characters that have a meaning of their own in a pattern, the hyphen in classes only. -/
def patternMarks : List Char :=
  ['\\', '^', '$', '.', '|', '?', '*', '+', '(', ')', '[', ']', '{', '}', '-']

/-- The characters of the entries stand for themselves wherever they are put into a pattern. -/
def AreLiteral (entries : List Text) : Prop := ∀ entry ∈ entries, ∀ c ∈ entry, c ∉ patternMarks

instance (entries : List Text) : Decidable (AreLiteral entries) :=
  decidable_of_iff
    (entries.all (fun entry => entry.all fun c => !patternMarks.contains c) = true)
    (by simp [AreLiteral])

end JapaneseProse
