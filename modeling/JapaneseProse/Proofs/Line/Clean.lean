import JapaneseProse.Proofs.Line.Tidiness

/-!
# Clean lines

Nothing is reported of a line if no rule that is on reports anything (`lintLine_eq_nil_iff`).  A
tidy line is clean (`report_of_isTidy`), and a clean line is tidy apart from the spaces at its end
(`isTidy_of_report`).  Only for gaps the two differ: a gap that is missing in front of punctuation
is not reported, because the punctuation itself is.

* `lintLine_applyRules`: a line that went through the rules is clean.
* `convertLine_iff_lintLine`: converting leaves exactly the clean lines as they are.
-/

namespace JapaneseProse

variable {settings : Settings} {tables : Tables} {t : Toggle} {number : Nat} {line : Text}

namespace Tables

/-- What the rule of a toggle reports of a line. -/
def report (tables : Tables) (t : Toggle) (number : Nat) (line : Text) : List Finding :=
  match t with
  | .lineHeadSpace =>
      LineHead.lint (tables.entries .spaces) (tables.entries .leftBrackets) number line
  | .punctuationBeforeBracket =>
      Neighbour.lintBefore (tables.entries .rightBrackets) (tables.entries .punctuation) number line
  | .doubleDash => Doubling.lint (tables.entries .dashes) number line
  | .doubleLeaders => Doubling.lint (tables.entries .leaders) number line
  | .repeatedPunctuation => Repetition.lint (tables.entries .punctuation) true number line
  | .punctuationAfterExclamation =>
      Neighbour.lintAfter (tables.entries .exclamations) (tables.entries .punctuation) number line
  | .spaceAfterExclamation =>
      Gap.lint (tables.entries .exclamations) tables.noGapReportedBefore true number line
  | .repeatedCharacters => Repetition.lint (tables.entries .noRepeat) false number line
  | .arabicNumerals | .trailingSpaces | .halfWidthExclamation => []

theorem noGapReportedBefore_eq (tables : Tables) :
  tables.noGapReportedBefore = tables.noGapBefore ++ tables.entries .punctuation
  := rfl

/-- Nothing is reported of a tidy line. -/
theorem report_of_isTidy (h : tables.IsTidy t line) :
  tables.report t number line = []
  := by
  cases t with
  | lineHeadSpace => apply LineHead.lint_eq_nil_iff.mpr h
  | punctuationBeforeBracket => apply Neighbour.lintBefore_eq_nil_iff.mpr h
  | doubleDash => apply Doubling.lint_eq_nil_iff.mpr h
  | doubleLeaders => apply Doubling.lint_eq_nil_iff.mpr h
  | repeatedPunctuation => apply Repetition.lint_eq_nil_iff.mpr h
  | punctuationAfterExclamation => apply Neighbour.lintAfter_eq_nil_iff.mpr h
  | spaceAfterExclamation =>
      apply Gap.lint_eq_nil_iff.mpr
      apply List.IsChain.imp _ h
      intro c d hcd hc
      rcases hcd hc with hd | hd
      · left
        rw [Gap.contains_noGap_iff] at hd ⊢
        rw [noGapReportedBefore_eq, CharClass.contains_ofEntries_append]
        tauto
      · exact .inr hd
  | repeatedCharacters => apply Repetition.lint_eq_nil_iff.mpr h
  | arabicNumerals | trailingSpaces | halfWidthExclamation => rfl

/-- A line of which nothing is reported is tidy, as far as spaces at its end do not count. -/
theorem isTidy_of_report (hend : t ≠ .trailingSpaces)
    (hgap : t = .spaceAfterExclamation → tables.IsTidy .punctuationAfterExclamation line)
    (h : tables.report t number line = []) :
  tables.IsTidy t line
  := by
  cases t with
  | lineHeadSpace => apply LineHead.lint_eq_nil_iff.mp h
  | punctuationBeforeBracket => apply Neighbour.lintBefore_eq_nil_iff.mp h
  | doubleDash => apply Doubling.lint_eq_nil_iff.mp h
  | doubleLeaders => apply Doubling.lint_eq_nil_iff.mp h
  | repeatedPunctuation => apply Repetition.lint_eq_nil_iff.mp h
  | punctuationAfterExclamation => apply Neighbour.lintAfter_eq_nil_iff.mp h
  | spaceAfterExclamation =>
      have hreported := List.isChain_iff_getElem.mp (Gap.lint_eq_nil_iff.mp h)
      have happart := List.isChain_iff_getElem.mp (hgap rfl)
      apply List.isChain_iff_getElem.mpr
      intro i hi hc
      rcases hreported i hi hc with hd | hd
      · left
        rw [Gap.contains_noGap_iff] at hd ⊢
        rw [noGapReportedBefore_eq, CharClass.contains_ofEntries_append] at hd
        rcases hd with hd | hd | hd
        · exact .inl hd
        · exact .inr hd
        · exact absurd ⟨hc, hd⟩ (happart i hi)
      · exact .inr hd
  | repeatedCharacters => apply Repetition.lint_eq_nil_iff.mp h
  | trailingSpaces => exact absurd rfl hend
  | arabicNumerals | halfWidthExclamation => apply isTidy_of_not_mem (by decide) line

end Tables

/-- The rules that are on report one after another. -/
theorem lintLine_eq_flatMap (settings : Settings) (tables : Tables) (number : Nat) (line : Text) :
  lintLine settings tables number line =
    Toggle.ruleOrder.flatMap fun t => reportIf (settings t) (tables.report t number line)
  := by
  have hend : reportIf (settings .trailingSpaces) [] = [] := by
    cases settings .trailingSpaces <;> rfl
  simp only [lintLine, Toggle.ruleOrder, List.flatMap_cons, List.flatMap_nil, Tables.report, hend,
    List.append_nil, List.append_assoc]

/-- Nothing is reported of a line if and only if no rule that is on reports anything. -/
theorem lintLine_eq_nil_iff :
  lintLine settings tables number line = [] ↔
    ∀ t ∈ Toggle.ruleOrder, settings t = true → tables.report t number line = []
  := by
  rw [lintLine_eq_flatMap, List.flatMap_eq_nil_iff]
  apply forall₂_congr
  intro t _
  cases settings t <;> simp [reportIf]

/-- A line that went through the rules is clean. -/
theorem lintLine_applyRules (hdisjoint : tables.IsDisjoint)
    (hspace : (tables.charClass .spaces).contains fullWidthSpace = true) (hfeed : '\n' ∉ line) :
  lintLine settings tables number (applyRules settings tables line) = []
  := by
  apply lintLine_eq_nil_iff.mpr
  intro t _ hon
  apply Tables.report_of_isTidy
  apply isTidy_applyRules hdisjoint hspace hfeed hon

/-- If neither numbers nor spaces at the end of a line are touched, converting leaves every clean
line as it is, and with tables that share no character only the clean ones.  For gaps to be
reported wherever they are put in, punctuation behind exclamation marks has to be reported too. -/
theorem convertLine_iff_lintLine (settings : Settings) (tables : Tables)
    (numerals : Numeral.Config) (number : Nat) (line : Text) (hfeed : '\n' ∉ line)
    (hnumerals : settings .arabicNumerals = false) (hend : settings .trailingSpaces = false)
    (hmap : tables.replaceMap.entries = [])
    (hgap : settings .punctuationAfterExclamation = true ∨
      settings .spaceAfterExclamation = false) :
  (lintLine settings tables number line = [] →
      convertLine settings tables numerals line = .ok line) ∧
    (tables.IsDisjoint → (tables.charClass .spaces).contains fullWidthSpace = true →
      convertLine settings tables numerals line = .ok line →
        lintLine settings tables number line = [])
  := by
  rw [convertLine_eq_applyRules hnumerals hmap]
  constructor
  · intro hclean
    rw [lintLine_eq_nil_iff] at hclean
    rw [applyRules_of_isTidy hfeed]
    intro t ht hon
    have hreport := hclean t ht hon
    apply Tables.isTidy_of_report _ _ hreport
    · rintro rfl
      rw [hend] at hon
      cases hon
    · rintro rfl
      rcases hgap with hgap | hgap
      · apply Tables.isTidy_of_report _ _ (hclean .punctuationAfterExclamation (by decide) hgap)
        · decide
        · intro h
          cases h
      · rw [hgap] at hon
        cases hon
  · intro hdisjoint hspace hsame
    have hsame : applyRules settings tables line = line := by injection hsame
    rw [← hsame]
    apply lintLine_applyRules hdisjoint hspace hfeed

/-- A clean line with marks of all tables in it, and spaces at its end. -/
theorem convertLine_iff_lintLine_standard :
  let settings := (Settings.allOn.switch .arabicNumerals false).switch .trailingSpaces false
  let line := ['「', '何', '！', '？', '\u3000', 'っ', '…', '‥', '。', 'を', '―', '―', '！', '」', ' ']
  '\n' ∉ line ∧ settings .arabicNumerals = false ∧ settings .trailingSpaces = false ∧
    Tables.standard.replaceMap.entries = [] ∧ settings .punctuationAfterExclamation = true ∧
    Tables.standard.IsDisjoint ∧
    (Tables.standard.charClass .spaces).contains fullWidthSpace = true ∧
    lintLine settings .standard 1 line = [] ∧
    convertLine settings .standard { } line = .ok line
  := by
  intro settings line
  have hfeed : '\n' ∉ line := by decide
  obtain ⟨hclean, hsame⟩ := convertLine_iff_lintLine settings .standard { } 1 line hfeed rfl rfl
    rfl (.inl rfl)
  have hconvert := hclean (by decide)
  have hdisjoint : Tables.standard.IsDisjoint := by decide
  exact ⟨hfeed, rfl, rfl, rfl, rfl, hdisjoint, rfl, hsame hdisjoint rfl hconvert, hconvert⟩

end JapaneseProse
