import JapaneseProse.Text.Search

/-!
# Findings

A finding says which rule a line breaks and where.  Lines count from one, columns from
zero, and the end of a span is the column behind it.
-/

namespace JapaneseProse

/-- The ways in which a line can break the rules. -/
inductive Finding.Kind where
  | missingIndent
  | isolatedMark
  | repetition
  | markAfterMark
  | markBeforeMark
  | missingGap
deriving DecidableEq, Repr

/-- A broken rule: the line, the span in it and the text of the span. -/
structure Finding where
  line : Nat
  columnBegin : Nat
  columnEnd : Nat
  detected : Text
  kind : Finding.Kind
deriving DecidableEq, Repr

namespace Finding

/-- The name of a kind in reports. -/
def Kind.name : Kind → String
  | missingIndent => "MissingLineHeadSpace"
  | isolatedMark => "SingleUsedSpecificChar"
  | repetition => "ConsecutiveSpecificChar"
  | markAfterMark => "SpecificCharAfterOtherSpecificChars"
  | markBeforeMark => "SpecificCharBeforeOtherSpecificChars"
  | missingGap => "SpecificCharAfterDisallowedChar"

/-- The finding that covers a match. -/
def ofMatch (line : Nat) (kind : Kind) (m : Match) : Finding :=
  ⟨line, m.offset, m.offset + m.text.length, m.text, kind⟩

end Finding

end JapaneseProse
