import JapaneseProse.Engine.Answer
import JapaneseProse.Proofs.Line.Reports

/-!
# Findings in a document

An engine reports the lines of a text one after another, and of each line what its rules report
(`lintLinesFrom_eq_flatMap`).  So every finding names a line of the text and a span of that line in
which the detected text stands, and the findings are in order (`Engine.lint_eq_map_reports`).
-/

namespace JapaneseProse

theorem lintLinesFrom_eq_flatMap (settings : Settings) (tables : Tables) (n : Nat)
    (lines : List Text) :
  lintLinesFrom settings tables n lines =
    (lines.zipIdx n).flatMap fun p => lintLine settings tables p.2 p.1
  := by
  induction lines generalizing n with
  | nil => rfl
  | cons line lines ih => rw [lintLinesFrom, ih, List.zipIdx_cons, List.flatMap_cons]

theorem pairwise_zipIdx (lines : List Text) (n : Nat) :
  (lines.zipIdx n).Pairwise fun p q => p.2 < q.2
  := by
  induction lines generalizing n with
  | nil => exact .nil
  | cons line lines ih =>
      rw [List.zipIdx_cons]
      apply List.Pairwise.cons _ (ih (n + 1))
      intro q hq
      apply (List.mem_zipIdx hq).1

namespace Engine

/-- What the rules of an engine report of a text, each finding with the toggle of its rule. -/
def reports (e : Engine) (text : Text) : List (Toggle × Finding) :=
  ((splitLines text).zipIdx 1).flatMap fun p => lineReports e.settings e.tables p.2 p.1

variable {e : Engine} {text : Text} {t : Toggle} {x : Finding}

theorem lint_eq_ok (e : Engine) (text : Text) :
  e.lint text = .ok (lintText e.settings e.tables text)
  := rfl

theorem map_snd_reports (e : Engine) (text : Text) :
  (e.reports text).map Prod.snd = lintText e.settings e.tables text
  := by
  rw [lintText, lintLinesFrom_eq_flatMap, reports, List.map_flatMap]
  simp only [map_snd_lineReports]

/-- A report comes from the line that it names. -/
theorem exists_line_of_mem_reports (h : (t, x) ∈ e.reports text) :
  1 ≤ x.line ∧
    ∃ line, (splitLines text)[x.line - 1]? = some line ∧
      (t, x) ∈ lineReports e.settings e.tables x.line line
  := by
  obtain ⟨⟨line, number⟩, hline, hmem⟩ := List.mem_flatMap.mp h
  obtain ⟨-, -, hreport⟩ := mem_lineReports_iff.mp hmem
  obtain ⟨rfl, -⟩ := Tables.of_mem_report hreport
  obtain ⟨hone, hget⟩ := List.mem_zipIdx_iff_le_and_getElem?_sub.mp hline
  exact ⟨hone, line, hget, hmem⟩

theorem pairwise_reports (e : Engine) (text : Text) :
  (e.reports text).Pairwise Precedes
  := by
  apply List.pairwise_flatMap.mpr
  constructor
  · intro p _
    apply pairwise_lineReports
  · apply (pairwise_zipIdx (splitLines text) 1).imp
    rintro p q hpq ⟨t, x⟩ hx ⟨u, y⟩ hy
    obtain ⟨hxline, -⟩ := Tables.of_mem_report (mem_lineReports_iff.mp hx).2.2
    obtain ⟨hyline, -⟩ := Tables.of_mem_report (mem_lineReports_iff.mp hy).2.2
    left
    change x.line < y.line
    rw [hxline, hyline]
    exact hpq

/-- Linting a text always comes to an end with findings.  Each of them is reported by a rule that is
on, of a line of the text, and its span in that line holds the detected text.  The findings are
ordered by line and then by rule, and those of one rule on one line lie one behind the other. -/
theorem lint_eq_map_reports (e : Engine) (text : Text) :
  e.lint text = .ok ((e.reports text).map Prod.snd) ∧
    (∀ r ∈ e.reports text,
      1 ≤ r.2.line ∧ r.2.line ≤ (splitLines text).length ∧
        ∃ line, (splitLines text)[r.2.line - 1]? = some line ∧ r.2.LiesIn line ∧
          e.settings r.1 = true ∧ r.2 ∈ e.tables.report r.1 r.2.line line) ∧
    (e.reports text).Pairwise Precedes
  := by
  refine ⟨?_, ?_, pairwise_reports e text⟩
  · rw [lint_eq_ok, map_snd_reports]
  · rintro ⟨t, x⟩ hr
    obtain ⟨hone, line, hline, hmem⟩ := exists_line_of_mem_reports hr
    obtain ⟨-, hon, hreport⟩ := mem_lineReports_iff.mp hmem
    have hlt := (List.getElem?_eq_some_iff.mp hline).1
    refine ⟨hone, ?_, line, hline, (Tables.of_mem_report hreport).2, hon, hreport⟩
    change x.line ≤ _
    omega

end Engine

end JapaneseProse
