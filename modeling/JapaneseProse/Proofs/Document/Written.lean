import JapaneseProse.Proofs.Document

/-!
# Documents with nothing switched on

Lines may be written down in any way.  They are read back as they were, and an engine with nothing
switched on writes the same lines down, all closed by the line end of its tables
(`splitLines_inverts_writing`).
-/

namespace JapaneseProse

theorem applyRules_of_off {settings : Settings} (hoff : ∀ t, settings t = false) (tables : Tables)
    (line : Text) :
  applyRules settings tables line = line
  := by
  simp only [applyRules, hoff]
  rfl

theorem convertLine_of_off {settings : Settings} {tables : Tables}
    (hoff : ∀ t, settings t = false) (hmap : tables.replaceMap.entries = [])
    (numerals : Numeral.Config) (line : Text) :
  convertLine settings tables numerals line = .ok line
  := by
  have hsame : Replacement.fix tables.replaceMap line = line := by
    rw [Replacement.fix, hmap]
    rfl
  rw [convertLine, hsame, hoff]
  change Except.ok (applyRules settings tables line) = _
  rw [applyRules_of_off hoff]

/-- Lines that are written down in any way are read back, and every text is lines written down.
There is at least one line, and no line end in a line.  With no toggle on and no replacements, an
engine writes the same lines down with its own line end behind each. -/
theorem splitLines_inverts_writing :
  (∀ doc, IsWritten doc → splitLines (writtenText doc) = doc.map WrittenLine.text) ∧
    (∀ text, ∃ doc, IsWritten doc ∧ writtenText doc = text ∧
      doc.map WrittenLine.text = splitLines text) ∧
    (∀ text, splitLines text ≠ [] ∧ ∀ line ∈ splitLines text, IsLine line) ∧
    ∀ e : Engine, (∀ t, e.settings t = false) → e.tables.replaceMap.entries = [] →
      ∀ doc, IsWritten doc → e.convert (writtenText doc) =
        .ok (writtenText (doc.map fun l => ⟨l.text, e.tables.newline⟩))
  := by
  refine ⟨fun doc h => h.splitLines_eq, fun text => ?_,
    fun text => ⟨splitLines_ne_nil text, isLine_of_mem_splitLines text⟩,
    fun e hoff hmap doc h => ?_⟩
  · obtain ⟨doc, h, rfl⟩ := exists_isWritten text
    exact ⟨doc, h, rfl, h.splitLines_eq.symm⟩
  · apply Engine.convert_eq_ok
    have hlines : ∀ line ∈ splitLines (writtenText doc),
        convertLine e.settings e.tables e.numerals line = .ok (id line) :=
      fun line _ => convertLine_of_off hoff hmap e.numerals line
    rw [convertText, mapM_eq_ok_map hlines, h.splitLines_eq, List.map_id]
    change Except.ok _ = _
    rw [writtenText, List.flatMap_map, List.map_map, ← List.flatMap_def]
    rfl

/-- All line ends, empty lines, and a last line that is open. -/
theorem splitLines_inverts_writing_mixed :
  let doc : List WrittenLine :=
    [⟨['ア'], ['\r', '\n']⟩, ⟨[], ['\r']⟩, ⟨['1', '!'], ['\n']⟩, ⟨[], ['\n']⟩, ⟨['イ', ' '], []⟩]
  let tables : Tables := { Tables.standard with replaceMap := .empty, newline := ['\r', '\n'] }
  let e : Engine := .make .allOff tables { mode := "plain" }
  IsWritten doc ∧
    writtenText doc = ['ア', '\r', '\n', '\r', '1', '!', '\n', '\n', 'イ', ' '] ∧
    splitLines (writtenText doc) = [['ア'], [], ['1', '!'], [], ['イ', ' ']] ∧
    (∀ t, e.settings t = false) ∧ e.tables.replaceMap.entries = [] ∧
    e.convert (writtenText doc) =
      .ok ['ア', '\r', '\n', '\r', '\n', '1', '!', '\r', '\n', '\r', '\n', 'イ', ' ', '\r', '\n']
  := by
  intro doc tables e
  have hdoc : IsWritten doc := by
    have hclosed : IsClosed (doc.take 4) := ⟨by decide, by decide, by decide⟩
    have hline : IsLine ['イ', ' '] := by decide
    exact .openLast hclosed hline (.inl (List.cons_ne_nil _ _))
  have hoff : ∀ t, e.settings t = false := fun _ => rfl
  have hmap : e.tables.replaceMap.entries = [] := by decide
  obtain ⟨hsplit, -, -, hconvert⟩ := splitLines_inverts_writing
  exact ⟨hdoc, rfl, hsplit doc hdoc, hoff, hmap, hconvert e hoff hmap doc hdoc⟩

end JapaneseProse
