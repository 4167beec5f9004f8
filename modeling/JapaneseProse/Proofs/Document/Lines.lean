import JapaneseProse.Proofs.Document
import JapaneseProse.Proofs.Document.Findings

/-!
# Documents line by line

A text that is continued behind a line end is converted and linted part by part
(`convertText_append`, `lintText_append`).  The findings of the later part are those of this part
alone, further down by the lines of the earlier part (`Finding.moveDown`).

If what closes the lines is a line end and no replacement writes one, the lines of a converted text
are the converted lines of the text (`exists_convertText_of_lines`).
-/

namespace JapaneseProse

/-- The same finding some lines further down. -/
def Finding.moveDown (n : Nat) (x : Finding) : Finding := { x with line := x.line + n }

variable {settings : Settings} {tables : Tables} {numerals : Numeral.Config}
variable {mode : Numeral.Mode} {g : Numeral.Glyphs} {a b : Text}

/-! ### Findings further down -/

/-- The number of a line shows in the findings and has no other effect on a rule. -/
theorem Tables.report_add (tables : Tables) (t : Toggle) (number n : Nat) (line : Text) :
  tables.report t (number + n) line = (tables.report t number line).map (Finding.moveDown n)
  := by
  obtain ⟨kind, ms, -, -, hreport⟩ := tables.exists_report t line
  rw [hreport, hreport, List.map_map]
  rfl

theorem lintLine_add (settings : Settings) (tables : Tables) (number n : Nat) (line : Text) :
  lintLine settings tables (number + n) line =
    (lintLine settings tables number line).map (Finding.moveDown n)
  := by
  rw [lintLine_eq_flatMap, lintLine_eq_flatMap, List.map_flatMap]
  apply List.flatMap_congr
  intro t _
  cases settings t with
  | false => rfl
  | true => apply tables.report_add t number n line

theorem lintLinesFrom_add (settings : Settings) (tables : Tables) (first n : Nat)
    (lines : List Text) :
  lintLinesFrom settings tables (first + n) lines =
    (lintLinesFrom settings tables first lines).map (Finding.moveDown n)
  := by
  induction lines generalizing first with
  | nil => rfl
  | cons line lines ih =>
      rw [lintLinesFrom, lintLinesFrom, List.map_append, lintLine_add, Nat.add_right_comm, ih]

theorem lintLinesFrom_append (settings : Settings) (tables : Tables) (first : Nat)
    (lines lines' : List Text) :
  lintLinesFrom settings tables first (lines ++ lines') =
    lintLinesFrom settings tables first lines ++
      lintLinesFrom settings tables (first + lines.length) lines'
  := by
  simp only [lintLinesFrom_eq_flatMap, List.zipIdx_append, List.flatMap_append]

/-! ### Texts put together -/

/-- Behind a line end, the findings are those of the rest alone, further down. -/
theorem lintText_append (settings : Settings) (tables : Tables) (ha : EndsLine a) (hb : b ≠ [])
    (hcut : ¬CutsLineEnd a b) :
  lintText settings tables (a ++ b) =
    lintText settings tables a ++
      (lintText settings tables b).map (Finding.moveDown (splitLines a).length)
  := by
  rw [lintText, splitLines_append ha hb hcut, lintLinesFrom_append, lintLinesFrom_add]
  rfl

/-- Behind a line end, the rest is converted on its own. -/
theorem convertText_append (settings : Settings) (tables : Tables) (numerals : Numeral.Config)
    (ha : EndsLine a) (hb : b ≠ []) (hcut : ¬CutsLineEnd a b) :
  convertText settings tables numerals (a ++ b) = (do
    let outA ← convertText settings tables numerals a
    let outB ← convertText settings tables numerals b
    return outA ++ outB)
  := by
  simp only [convertText, splitLines_append ha hb hcut, List.mapM_append]
  cases (splitLines a).mapM (convertLine settings tables numerals) with
  | error fault => rfl
  | ok linesA =>
      cases (splitLines b).mapM (convertLine settings tables numerals) with
      | error fault => rfl
      | ok linesB =>
          change Except.ok ((linesA ++ linesB).map _).flatten = _
          rw [List.map_append, List.flatten_append]
          rfl

/-! ### Converted lines -/

/-- With names that mean something, every text can be converted. -/
theorem exists_convertText_of_valid (settings : Settings) (tables : Tables)
    (hmode : numerals.mode? = .ok mode) (hglyphs : numerals.glyphs? = .ok g) (text : Text) :
  ∃ out, convertText settings tables numerals text = .ok out
  := by
  choose convert hconvert using exists_convertLine_of_mem settings tables hmode hglyphs
  have hlines : (splitLines text).mapM (convertLine settings tables numerals) =
      .ok ((splitLines text).map convert) := by
    apply mapM_eq_ok_map
    intro line _
    apply (hconvert line).1
  use (((splitLines text).map convert).map (· ++ tables.newline)).flatten
  rw [convertText, hlines]
  rfl

/-- If no replacement writes a line end, the lines of a converted text are the converted lines. -/
theorem exists_convertText_of_lines (settings : Settings) (hnewline : tables.newline ∈ lineEnds)
    (hvalues : ∀ entry ∈ tables.replaceMap.entries, IsLine entry.2)
    (hmode : numerals.mode? = .ok mode) (hglyphs : numerals.glyphs? = .ok g) (text : Text) :
  ∃ out, convertText settings tables numerals text = .ok out ∧
    (splitLines out).map .ok = (splitLines text).map (convertLine settings tables numerals)
  := by
  have hline : ∀ line ∈ splitLines text,
      ∃ out, convertLine settings tables numerals line = .ok out ∧ IsLine out := by
    intro line hmem
    apply exists_isLine_convertLine settings hvalues hmode hglyphs
    apply isLine_of_mem_splitLines text line hmem
  choose! convert hconvert hisLine using hline
  use (((splitLines text).map convert).map (· ++ tables.newline)).flatten
  constructor
  · rw [convertText, mapM_eq_ok_map hconvert]
    rfl
  · rw [splitLines_flatten hnewline, List.map_map]
    · apply List.map_congr_left
      intro line hmem
      apply (hconvert line hmem).symm
    · apply List.forall_mem_map.mpr hisLine
    · apply mt List.map_eq_nil_iff.mp (splitLines_ne_nil text)

/-! ### Engines -/

namespace Engine

/-- An engine that can write numbers goes through documents line by line.  A text that is continued
behind a line end is converted and linted part by part, and the line numbers of the later findings
go on.  If what closes the lines is a line end and no replacement writes one, the lines of a
converted text are the converted lines of the text, one for one. -/
theorem convert_lint_linewise (e : Engine) (hmode : ∃ mode, e.numerals.mode? = .ok mode)
    (hglyphs : ∃ g, e.numerals.glyphs? = .ok g) :
  (∀ a b, EndsLine a → b ≠ [] → ¬CutsLineEnd a b →
    ∃ outA outB foundA foundB,
      e.convert a = .ok outA ∧ e.convert b = .ok outB ∧ e.convert (a ++ b) = .ok (outA ++ outB) ∧
      e.lint a = .ok foundA ∧ e.lint b = .ok foundB ∧
      e.lint (a ++ b) = .ok (foundA ++ foundB.map (Finding.moveDown (splitLines a).length))) ∧
    (e.tables.newline ∈ lineEnds → (∀ entry ∈ e.tables.replaceMap.entries, IsLine entry.2) →
      ∀ text, ∃ out, e.convert text = .ok out ∧
        (splitLines out).map .ok =
          (splitLines text).map (convertLine e.settings e.tables e.numerals))
  := by
  obtain ⟨mode, hmode⟩ := hmode
  obtain ⟨g, hglyphs⟩ := hglyphs
  constructor
  · intro a b ha hb hcut
    obtain ⟨outA, houtA⟩ := exists_convertText_of_valid e.settings e.tables hmode hglyphs a
    obtain ⟨outB, houtB⟩ := exists_convertText_of_valid e.settings e.tables hmode hglyphs b
    use outA, outB, lintText e.settings e.tables a, lintText e.settings e.tables b
    refine ⟨convert_eq_ok houtA, convert_eq_ok houtB, ?_, lint_eq_ok e a, lint_eq_ok e b, ?_⟩
    · apply convert_eq_ok
      rw [convertText_append e.settings e.tables e.numerals ha hb hcut, houtA, houtB]
      rfl
    · rw [lint_eq_ok, lintText_append e.settings e.tables ha hb hcut]
  · intro hnewline hvalues text
    obtain ⟨out, hout, hlines⟩ :=
      exists_convertText_of_lines e.settings hnewline hvalues hmode hglyphs text
    exact ⟨out, convert_eq_ok hout, hlines⟩

/-- A text that ends in a carriage return is continued by an empty line and closed twice. -/
theorem convert_lint_linewise_continued :
  let tables : Tables := { Tables.standard with newline := ['\r', '\n'] }
  let e : Engine := .make .allOn tables { mode := "moderate" }
  let a : Text := ['「', '!', '。', '\r', '\n', '…', '\r']
  let b : Text := ['\r', '\u3000', '1', '0', '、', '、', '\n', '\n']
  let outA : Text := ['「', '！', '\r', '\n', '\u3000', '…', '…', '\r', '\n']
  let outB : Text := ['\r', '\n', '\u3000', '一', '〇', '、', '\r', '\n', '\r', '\n']
  let foundA : List Finding := [⟨2, 0, 1, ['…'], .missingIndent⟩, ⟨2, 0, 1, ['…'], .isolatedMark⟩]
  let foundB : List Finding := [⟨2, 3, 5, ['、', '、'], .repetition⟩]
  ((∃ mode, e.numerals.mode? = .ok mode) ∧ ∃ g, e.numerals.glyphs? = .ok g) ∧
    (EndsLine a ∧ b ≠ [] ∧ ¬CutsLineEnd a b) ∧
    (e.tables.newline ∈ lineEnds ∧ ∀ entry ∈ e.tables.replaceMap.entries, IsLine entry.2) ∧
    e.convert a = .ok outA ∧ e.convert b = .ok outB ∧ e.convert (a ++ b) = .ok (outA ++ outB) ∧
    e.lint a = .ok foundA ∧ e.lint b = .ok foundB ∧
    e.lint (a ++ b) = .ok (foundA ++ foundB.map (Finding.moveDown 2)) ∧
    (splitLines (outA ++ outB)).map .ok =
      (splitLines (a ++ b)).map (convertLine e.settings e.tables e.numerals)
  := by
  intro tables e a b outA outB foundA foundB
  have hvalid : (∃ mode, e.numerals.mode? = .ok mode) ∧ ∃ g, e.numerals.glyphs? = .ok g :=
    ⟨⟨.moderate, rfl⟩, ⟨.modern, rfl⟩⟩
  have hends : EndsLine a ∧ b ≠ [] ∧ ¬CutsLineEnd a b := by decide
  have htables : e.tables.newline ∈ lineEnds ∧
      ∀ entry ∈ e.tables.replaceMap.entries, IsLine entry.2 := by
    decide
  have hA : e.convert a = .ok outA := by decide
  have hB : e.convert b = .ok outB := by decide
  have hlintA : e.lint a = .ok foundA := by decide
  have hlintB : e.lint b = .ok foundB := by decide
  obtain ⟨hparts, hlines⟩ := convert_lint_linewise e hvalid.1 hvalid.2
  obtain ⟨outA', outB', foundA', foundB', hA', hB', hAB, hlintA', hlintB', hlintAB⟩ :=
    hparts a b hends.1 hends.2.1 hends.2.2
  obtain rfl : outA = outA' := by injection hA.symm.trans hA'
  obtain rfl : outB = outB' := by injection hB.symm.trans hB'
  obtain rfl : foundA = foundA' := by injection hlintA.symm.trans hlintA'
  obtain rfl : foundB = foundB' := by injection hlintB.symm.trans hlintB'
  obtain ⟨out, hout, hconverted⟩ := hlines htables.1 htables.2 (a ++ b)
  obtain rfl : outA ++ outB = out := by injection hAB.symm.trans hout
  exact ⟨hvalid, hends, htables, hA, hB, hAB, hlintA, hlintB, hlintAB, hconverted⟩

end Engine

end JapaneseProse
