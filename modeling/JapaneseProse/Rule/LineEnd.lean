import JapaneseProse.Text.Basic

/-!
# The end of a line

Spaces at the end of a line are dropped, in front of a final line feed too.  An entry
of several characters counts only as a whole, and an empty entry does not count.  What
is dropped begins as early as it can; from there the entries are tried in the order of
the table, and as many are taken as still lead to the end of the line.  The line is read
from its end, so entries that repeat or overlap are no burden.

* `LineEnd.fix_cons`: the line from some place on gives way to what is left behind its
  spaces, or else its first character stays.
-/

namespace JapaneseProse.LineEnd

/-- Whether a line may end in front of this text. -/
def atEnd (s : Text) : Bool := s == [] || s == ['\n']

/-- What is left of a text after entries that lead to the end of the line, as many as
possible. -/
def afterEntries? (entries : List Text) (s : Text) : Option Text :=
  (entries.findSome? fun e =>
    if e ≠ [] ∧ e <+: s then afterEntries? entries (s.drop e.length) else none) <|>
  if atEnd s then some s else none
termination_by s.length
decreasing_by
  rename_i h
  have hpos : 0 < e.length := List.length_pos_iff.mpr h.1
  have hle : e.length ≤ s.length := h.2.length_le
  rw [List.length_drop]
  omega

/-- What is left of a text after one or more entries that lead to the end of the line. -/
def afterSpaces? (entries : List Text) (s : Text) : Option Text :=
  entries.findSome? fun e =>
    if e ≠ [] ∧ e <+: s then afterEntries? entries (s.drop e.length) else none

/-! ### The line seen from its end -/

/-- What `afterSpaces?` says of a text, if `behind` tells what `afterEntries?` says of the
texts behind its characters, the longest first. -/
def lookUp? (entries : List Text) (behind : List (Option Text)) (s : Text) : Option Text :=
  entries.findSome? fun e =>
    if e ≠ [] ∧ e <+: s then (behind[e.length - 1]?).join else none

/-- What is found in a line that is read from its end. -/
structure Scan where
  /-- What `afterEntries?` says of the line and of all its ends, the longest first. -/
  outcomes : List (Option Text)
  /-- The line without the spaces at its end. -/
  fixed : Text

/-- A line read from its end, so that no place is looked at twice. -/
def scan (entries : List Text) : Text → Scan
  | [] => ⟨[some []], []⟩
  | c :: s =>
      let behind := scan entries s
      let found := lookUp? entries behind.outcomes (c :: s)
      ⟨(found <|> if atEnd (c :: s) then some (c :: s) else none) :: behind.outcomes,
        found.getD (c :: behind.fixed)⟩

/-- The line without the spaces at its end. -/
def fix (entries : List Text) (line : Text) : Text := (scan entries line).fixed

theorem afterEntries?_eq (entries : List Text) (s : Text) :
  afterEntries? entries s = (afterSpaces? entries s <|> if atEnd s then some s else none)
  := by
  rw [afterEntries?]
  rfl

theorem lookUp?_eq {entries : List Text} {behind : List (Option Text)} {c : Char} {s : Text}
    (h : ∀ n ≤ s.length, behind[n]? = some (afterEntries? entries (s.drop n))) :
  lookUp? entries behind (c :: s) = afterSpaces? entries (c :: s)
  := by
  rw [lookUp?, afterSpaces?]
  congr 1
  funext e
  by_cases he : e ≠ [] ∧ e <+: c :: s
  · have hpos : e.length ≠ 0 := fun hzero => he.1 (List.length_eq_zero_iff.mp hzero)
    obtain ⟨n, hn⟩ := Nat.exists_eq_succ_of_ne_zero hpos
    have hle : n ≤ s.length := by
      have := he.2.length_le
      rw [hn, List.length_cons] at this
      exact Nat.le_of_succ_le_succ this
    rw [if_pos he, if_pos he, hn, Nat.succ_sub_one, h n hle, List.drop_succ_cons, Option.join_some]
  · rw [if_neg he, if_neg he]

theorem outcomes_scan (entries : List Text) (s : Text) :
  ∀ n ≤ s.length, (scan entries s).outcomes[n]? = some (afterEntries? entries (s.drop n))
  := by
  induction s with
  | nil =>
      intro n hn
      obtain rfl : n = 0 := Nat.le_zero.mp hn
      have hnone : afterSpaces? entries [] = none := by
        rw [afterSpaces?, List.findSome?_eq_none_iff]
        intro e _
        rw [if_neg]
        intro he
        exact he.1 (List.prefix_nil.mp he.2)
      rw [List.drop_nil, afterEntries?_eq, hnone]
      rfl
  | cons c s ih =>
      intro n hn
      cases n with
      | zero =>
          rw [List.drop_zero, afterEntries?_eq, ← lookUp?_eq ih]
          rfl
      | succ n => exact ih n (Nat.le_of_succ_le_succ hn)

@[simp]
theorem fix_nil (entries : List Text) :
  fix entries [] = []
  := rfl

/-- What is dropped begins at the first place from which entries lead to the end. -/
theorem fix_cons (entries : List Text) (c : Char) (s : Text) :
  fix entries (c :: s) = (afterSpaces? entries (c :: s)).getD (c :: fix entries s)
  := by
  rw [← lookUp?_eq (outcomes_scan entries s)]
  rfl

end JapaneseProse.LineEnd
