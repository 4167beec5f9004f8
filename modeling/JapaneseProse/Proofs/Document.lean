import JapaneseProse.Engine.Answer
import JapaneseProse.Proofs.Line.Conversion
import JapaneseProse.Proofs.Text.Written

/-!
# Converted documents

Tables are regular if they share no character, the full-width space is a space, the line end is
one, and all replacements are implied by toggles (`Tables.IsRegular`).  An engine with such tables
that can write numbers is regular, and it stays so when toggles are switched
(`Engine.isRegular_make`, `Engine.IsRegular.switch`).

The lines that a regular engine writes are clean and are not changed any more, and the converted
text has just these lines (`exists_convertText`).

* `convert_convert`: converting a second time changes nothing.
* `lint_convert`: nothing is reported of a converted text.
-/

namespace JapaneseProse

variable {settings : Settings} {tables : Tables} {numerals : Numeral.Config}

/-! ### Documents -/

/-- Lines that are converted already are written as they are. -/
theorem convertText_flatten {lines : List Text} (hnewline : tables.newline ∈ lineEnds)
    (hne : lines ≠ []) (hlines : ∀ line ∈ lines, IsLine line)
    (hsame : ∀ line ∈ lines, convertLine settings tables numerals line = .ok line) :
  convertText settings tables numerals (lines.map (· ++ tables.newline)).flatten =
    .ok (lines.map (· ++ tables.newline)).flatten
  := by
  rw [convertText, splitLines_flatten hnewline hlines hne, mapM_eq_ok_map (g := id) hsame,
    List.map_id]
  rfl

theorem lintLinesFrom_eq_nil {lines : List Text} (n : Nat)
    (hclean : ∀ line ∈ lines, ∀ number, lintLine settings tables number line = []) :
  lintLinesFrom settings tables n lines = []
  := by
  induction lines generalizing n with
  | nil => rfl
  | cons line lines ih =>
      obtain ⟨hline, hlines⟩ := List.forall_mem_cons.mp hclean
      rw [lintLinesFrom, hline, ih _ hlines]
      rfl

/-! ### Regular engines -/

/-- Tables that do not get in each other's way. -/
structure Tables.IsRegular (tables : Tables) : Prop where
  isDisjoint : tables.IsDisjoint
  contains_fullWidthSpace : (tables.charClass .spaces).contains fullWidthSpace = true
  newline_mem : tables.newline ∈ lineEnds
  isImplied : tables.IsImplied

theorem Tables.isRegular_standard :
  Tables.standard.IsRegular
  := ⟨by decide, rfl, by decide, by decide⟩

theorem Tables.IsRegular.sync (h : tables.IsRegular) (t : Toggle) (on : Bool) :
  (tables.sync t on).IsRegular
  := ⟨h.isDisjoint, h.contains_fullWidthSpace, h.newline_mem, h.isImplied.sync t on⟩

namespace Engine

/-- An engine with regular tables that can write numbers. -/
structure IsRegular (e : Engine) : Prop where
  tables : e.tables.IsRegular
  mode_valid : ∃ mode, e.numerals.mode? = .ok mode
  glyphs_valid : ∃ g, e.numerals.glyphs? = .ok g

variable {e : Engine}

/-- With regular tables, an engine is regular whatever its settings are. -/
theorem isRegular_make (settings : Settings) (htables : tables.IsRegular)
    (hmode : ∃ mode, numerals.mode? = .ok mode) (hglyphs : ∃ g, numerals.glyphs? = .ok g) :
  IsRegular (.make settings tables numerals)
  := by
  refine ⟨?_, hmode, hglyphs⟩
  apply Tables.IsRegular.sync
  apply Tables.IsRegular.sync htables

/-- Switching a toggle keeps an engine regular, whoever listens. -/
theorem IsRegular.switch (h : e.IsRegular) (t : Toggle) (value : Bool) :
  IsRegular (e.switch t value).1
  := by
  have htold (listeners : List Listener) (state : Tables × List Announcement)
      (hstate : state.1.IsRegular) :
      (listeners.foldl (EngineWith.tell t value) state).1.IsRegular := by
    induction listeners generalizing state with
    | nil => exact hstate
    | cons l listeners ih =>
        rw [List.foldl_cons]
        apply ih
        cases l with
        | keeper => apply hstate.sync t value
        | observer id => exact hstate
  exact ⟨htold e.listeners (e.tables, []) h.tables, h.mode_valid, h.glyphs_valid⟩

/-! ### Converted documents -/

/-- A regular engine writes clean lines that it would not change any more. -/
theorem exists_convertText (h : e.IsRegular) (text : Text) :
  ∃ lines : List Text,
    convertText e.settings e.tables e.numerals text =
        .ok (lines.map (· ++ e.tables.newline)).flatten ∧
      lines ≠ [] ∧
      ∀ line ∈ lines, IsLine line ∧
        convertLine e.settings e.tables e.numerals line = .ok line ∧
        ∀ number, lintLine e.settings e.tables number line = []
  := by
  obtain ⟨mode, hmode⟩ := h.mode_valid
  obtain ⟨g, hglyphs⟩ := h.glyphs_valid
  have hline : ∀ line ∈ splitLines text,
      ∃ out, convertLine e.settings e.tables e.numerals line = .ok out ∧ IsLine out ∧
        convertLine e.settings e.tables e.numerals out = .ok out ∧
        ∀ number, lintLine e.settings e.tables number out = [] := by
    intro line hmem
    apply exists_convertLine h.tables.isDisjoint h.tables.contains_fullWidthSpace
      h.tables.isImplied hmode hglyphs
    apply isLine_of_mem_splitLines text line hmem
  obtain ⟨lines, hlines, hlen, hout⟩ := exists_mapM hline
  use lines
  rw [convertText, hlines]
  refine ⟨rfl, ?_, hout⟩
  apply List.ne_nil_of_length_pos
  rw [hlen]
  apply List.length_pos_iff.mpr (splitLines_ne_nil text)

theorem convert_eq_ok {text out : Text}
    (h : convertText e.settings e.tables e.numerals text = .ok out) :
  e.convert text = .ok out
  := by
  rw [convert, process, h]
  rfl

/-- Converting a text a second time changes nothing. -/
theorem convert_convert (e : Engine) (h : e.IsRegular) (text : Text) :
  ∃ once, e.convert text = .ok once ∧ e.convert once = .ok once
  := by
  obtain ⟨lines, htext, hne, hlines⟩ := exists_convertText h text
  use (lines.map (· ++ e.tables.newline)).flatten
  constructor
  · apply convert_eq_ok htext
  · apply convert_eq_ok
    apply convertText_flatten h.tables.newline_mem hne
    · intro line hline
      apply (hlines line hline).1
    · intro line hline
      apply (hlines line hline).2.1

/-- A text with all kinds of line ends, in which numbers, marks and spaces are converted. -/
theorem convert_convert_standard :
  let e : Engine := .make .allOn .standard { mode := "verbose", glyphs := "retro" }
  let text : Text :=
    ['１', '０', '5', '!', '?', '。', 'あ', '、', '」', '\r', '\n', '…', 'っ', 'っ', '！', ' ', '\r', '\r',
      '\n']
  let once : Text :=
    ['\u3000', '佰', '伍', '！', '？', '\u3000', 'あ', '」', '\n', '\u3000', '…', '…', 'っ', '！', '\n',
      '\n']
  e.IsRegular ∧ e.convert text = .ok once ∧ e.convert once = .ok once
  := by
  intro e text once
  have he : e.IsRegular :=
    isRegular_make _ Tables.isRegular_standard ⟨.verbose, rfl⟩ ⟨.retro, rfl⟩
  have htext : e.convert text = .ok once := by decide
  obtain ⟨out, hout, hsame⟩ := convert_convert e he text
  obtain rfl : once = out := by injection htext.symm.trans hout
  exact ⟨he, htext, hsame⟩

/-- Nothing is reported of a converted text. -/
theorem lint_convert (e : Engine) (h : e.IsRegular) (text : Text) :
  ∃ once, e.convert text = .ok once ∧ e.lint once = .ok []
  := by
  obtain ⟨lines, htext, hne, hlines⟩ := exists_convertText h text
  have hcut : splitLines (lines.map (· ++ e.tables.newline)).flatten = lines := by
    apply splitLines_flatten h.tables.newline_mem _ hne
    intro line hline
    apply (hlines line hline).1
  have hclean : lintLinesFrom e.settings e.tables 1 lines = [] := by
    apply lintLinesFrom_eq_nil
    intro line hline
    apply (hlines line hline).2.2
  use (lines.map (· ++ e.tables.newline)).flatten
  constructor
  · apply convert_eq_ok htext
  · change Except.ok (lintText e.settings e.tables _) = _
    rw [lintText, hcut, hclean]

/-- Some toggles are off, and the lines are closed by another line end. -/
theorem lint_convert_partial :
  let settings :=
    (Settings.allOn.switch .punctuationAfterExclamation false).switch .lineHeadSpace false
  let tables : Tables := { Tables.standard with newline := ['\r', '\n'] }
  let e : Engine := .make settings tables { mode := "moderate" }
  let text : Text :=
    ['1', '2', '0', '0', '0', ',', '!', '。', '」', '!', '、', '、', '」', '\r', '―', 'ゃ', 'ゃ', ' ', ' ']
  let once : Text :=
    ['一', '万', '二', '〇', '〇', '〇', '！', '」', '！', '」', '\r', '\n', '―', '―', 'ゃ', '\r', '\n']
  e.IsRegular ∧ e.convert text = .ok once ∧ e.lint once = .ok []
  := by
  intro settings tables e text once
  have htables : tables.IsRegular := ⟨by decide, rfl, by decide, by decide⟩
  have he : e.IsRegular := isRegular_make _ htables ⟨.moderate, rfl⟩ ⟨.modern, rfl⟩
  have htext : e.convert text = .ok once := by decide
  obtain ⟨out, hout, hclean⟩ := lint_convert e he text
  obtain rfl : once = out := by injection htext.symm.trans hout
  exact ⟨he, htext, hclean⟩

end Engine

end JapaneseProse
