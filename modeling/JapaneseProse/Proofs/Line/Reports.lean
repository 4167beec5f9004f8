import JapaneseProse.Proofs.Line.Clean

/-!
# Reports of a line

What a rule reports of a line are spans of the line, one behind the other, whatever the number of
the line is (`Tables.exists_report`).  The reports of all rules that are on come in the order of the
rules (`pairwise_lineReports`).
-/

namespace JapaneseProse

/-- What the rules that are on report of a line, each finding with the toggle of its rule. -/
def lineReports (settings : Settings) (tables : Tables) (number : Nat) (line : Text) :
    List (Toggle × Finding) :=
  Toggle.ruleOrder.flatMap fun t =>
    (reportIf (settings t) (tables.report t number line)).map fun x => (t, x)

/-- The order of reports: the lines count first, then the rules, then the columns. -/
def Precedes (a b : Toggle × Finding) : Prop :=
  a.2.line < b.2.line ∨
    a.2.line = b.2.line ∧
      (Toggle.ruleOrder.idxOf a.1 < Toggle.ruleOrder.idxOf b.1 ∨
        a.1 = b.1 ∧ a.2.columnBegin < b.2.columnBegin ∧ a.2.columnEnd ≤ b.2.columnBegin)

variable {settings : Settings} {tables : Tables} {number : Nat} {line : Text} {t : Toggle}
  {x : Finding}

/-! ### One rule -/

/-- What a rule reports of a line are matches that lie in the line one after another. -/
theorem Tables.exists_report (tables : Tables) (t : Toggle) (line : Text) :
  ∃ kind ms, Placed 0 ms line ∧ (∀ m ∈ ms, m.text ≠ []) ∧
    ∀ number, tables.report t number line = ms.map (Finding.ofMatch number kind)
  := by
  have hmatches {p : Pattern} (hp : p.Consuming) :
      Placed 0 (p.matchesIn line) line ∧ ∀ m ∈ p.matchesIn line, m.text ≠ [] :=
    ⟨Pattern.placed_matchesIn hp line, Pattern.text_ne_nil_of_mem_matchesIn hp line⟩
  have hisolated (marks : List Text) :
      Placed 0 (Doubling.isolated marks line) line ∧
        ∀ m ∈ Doubling.isolated marks line, m.text ≠ [] :=
    ⟨Doubling.placed_isolated marks line, Doubling.text_ne_nil_of_mem_isolated⟩
  cases t with
  | lineHeadSpace =>
      use .missingIndent
      apply LineHead.exists_lint
  | punctuationBeforeBracket =>
      obtain ⟨hplaced, hne⟩ := hmatches (Neighbour.consuming_adjacent _ _)
      exact ⟨_, _, hplaced, hne, fun _ => rfl⟩
  | doubleDash =>
      obtain ⟨hplaced, hne⟩ := hisolated (tables.entries .dashes)
      exact ⟨_, _, hplaced, hne, fun number => Doubling.lint_eq_map_ofMatch _ number line⟩
  | doubleLeaders =>
      obtain ⟨hplaced, hne⟩ := hisolated (tables.entries .leaders)
      exact ⟨_, _, hplaced, hne, fun number => Doubling.lint_eq_map_ofMatch _ number line⟩
  | repeatedPunctuation =>
      obtain ⟨hplaced, hne⟩ := hmatches (Repetition.consuming_pattern _ true)
      exact ⟨_, _, hplaced, hne, fun _ => rfl⟩
  | punctuationAfterExclamation =>
      obtain ⟨hplaced, hne⟩ := hmatches (Neighbour.consuming_adjacent _ _)
      exact ⟨_, _, hplaced, hne, fun _ => rfl⟩
  | spaceAfterExclamation =>
      obtain ⟨hplaced, hne⟩ := hmatches (Gap.consuming_pattern _ _ true)
      exact ⟨_, _, hplaced, hne, fun _ => rfl⟩
  | repeatedCharacters =>
      obtain ⟨hplaced, hne⟩ := hmatches (Repetition.consuming_pattern _ false)
      exact ⟨_, _, hplaced, hne, fun _ => rfl⟩
  | arabicNumerals | trailingSpaces | halfWidthExclamation =>
      exact ⟨.missingIndent, [], .nil 0 line, fun m hm => absurd hm List.not_mem_nil, fun _ => rfl⟩

/-- Findings of a rule carry the number of the line and lie in it. -/
theorem Tables.of_mem_report (h : x ∈ tables.report t number line) :
  x.line = number ∧ x.LiesIn line
  := by
  obtain ⟨kind, ms, hplaced, hne, hreport⟩ := tables.exists_report t line
  rw [hreport] at h
  obtain ⟨m, hm, rfl⟩ := List.mem_map.mp h
  exact ⟨rfl, Finding.liesIn_ofMatch hplaced hm (hne m hm) number kind⟩

/-- Findings of a rule lie one behind the other. -/
theorem Tables.pairwise_report (tables : Tables) (t : Toggle) (number : Nat) (line : Text) :
  (tables.report t number line).Pairwise fun x y => x.columnEnd ≤ y.columnBegin
  := by
  obtain ⟨kind, ms, hplaced, -, hreport⟩ := tables.exists_report t line
  rw [hreport]
  apply Finding.pairwise_ofMatch hplaced

/-! ### All rules -/

theorem mem_reportIf_iff {on : Bool} {findings : List Finding} :
  x ∈ reportIf on findings ↔ on = true ∧ x ∈ findings
  := by
  cases on <;> simp [reportIf]

theorem map_snd_lineReports (settings : Settings) (tables : Tables) (number : Nat) (line : Text) :
  (lineReports settings tables number line).map Prod.snd = lintLine settings tables number line
  := by
  rw [lintLine_eq_flatMap, lineReports, List.map_flatMap]
  apply List.flatMap_congr
  intro t _
  rw [List.map_map]
  apply List.map_id

theorem mem_lineReports_iff :
  (t, x) ∈ lineReports settings tables number line ↔
    t ∈ Toggle.ruleOrder ∧ settings t = true ∧ x ∈ tables.report t number line
  := by
  simp [lineReports, mem_reportIf_iff]

theorem pairwise_lineReports (settings : Settings) (tables : Tables) (number : Nat)
    (line : Text) :
  (lineReports settings tables number line).Pairwise Precedes
  := by
  apply List.pairwise_flatMap.mpr
  constructor
  · intro t _
    cases settings t with
    | false => exact .nil
    | true =>
        apply List.pairwise_map.mpr
        apply (tables.pairwise_report t number line).imp_of_mem
        intro x y hx hy hxy
        obtain ⟨hxline, hxspan⟩ := Tables.of_mem_report hx
        obtain ⟨hyline, -⟩ := Tables.of_mem_report hy
        exact .inr ⟨hxline.trans hyline.symm, .inr
          ⟨rfl, Nat.lt_of_lt_of_le hxspan.begin_lt_end hxy, hxy⟩⟩
  · have horder : Toggle.ruleOrder.Pairwise fun t u =>
        Toggle.ruleOrder.idxOf t < Toggle.ruleOrder.idxOf u := by
      decide
    apply horder.imp
    rintro t u htu _ ha _ hb
    obtain ⟨x, hx, rfl⟩ := List.mem_map.mp ha
    obtain ⟨y, hy, rfl⟩ := List.mem_map.mp hb
    obtain ⟨hxline, -⟩ := Tables.of_mem_report (mem_reportIf_iff.mp hx).2
    obtain ⟨hyline, -⟩ := Tables.of_mem_report (mem_reportIf_iff.mp hy).2
    exact .inr ⟨hxline.trans hyline.symm, .inl htu⟩

end JapaneseProse
