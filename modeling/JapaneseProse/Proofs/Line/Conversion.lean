import JapaneseProse.Proofs.Line.Clean
import JapaneseProse.Proofs.Numeral.Conversion
import JapaneseProse.Proofs.ReplaceMap
import JapaneseProse.Proofs.Rule.Replacement
import JapaneseProse.Proofs.Text.Lines

/-!
# Converted lines

If the entries of the replacement table are all implied by toggles, replacements and numerals
write no character that they would convert themselves (`exists_written`); such characters are
called plain (`IsPlain`).  A line of plain characters is only changed by the rules on marks and
spaces (`convertLine_of_isPlain`), and these put in no other characters.

* `exists_convertLine_of_mem`: every line can be converted, and it is known where new characters
  come from.
* `exists_convertLine`: every line can be converted, and the result is a clean line that is not
  changed any more.
-/

namespace JapaneseProse

/-- The character is no line end, and neither replacements nor numerals convert it. -/
structure IsPlain (settings : Settings) (tables : Tables) (c : Char) : Prop where
  isLine : IsLine [c]
  not_mem_keys : [c] ∉ tables.replaceMap.keys
  not_isDigit : settings .arabicNumerals = true → c.isDigit = false

variable {settings : Settings} {tables : Tables} {numerals : Numeral.Config}
variable {mode : Numeral.Mode} {g : Numeral.Glyphs} {line : Text} {c : Char}

/-! ### Implied entries -/

namespace Tables

theorem IsImplied.byCharacter (h : tables.IsImplied) :
  Replacement.ByCharacter tables.replaceMap.entries
  := by
  intro entry hentry
  obtain ⟨t, -, hmem⟩ := h entry hentry
  apply Toggle.exists_key hmem

/-- Toggles write no line ends and nothing that toggles replace. -/
theorem IsImplied.of_mem (h : tables.IsImplied) {entry : Text × Text}
    (hentry : entry ∈ tables.replaceMap.entries) (hc : c ∈ entry.2) :
  IsLine [c] ∧ [c] ∉ impliedKeys
  := by
  have hvalues : ∀ t ∈ Toggle.all, ∀ entry ∈ t.impliedEntries,
      (entry.2.all fun d => IsLine [d]) = true := by decide
  obtain ⟨t, ht, hmem⟩ := h entry hentry
  constructor
  · apply of_decide_eq_true (List.all_eq_true.mp (hvalues t ht entry hmem) c hc)
  · apply Toggle.not_mem_impliedKeys_of_mem hmem hc

theorem IsImplied.mem_impliedKeys (h : tables.IsImplied) {key : Text}
    (hkey : key ∈ tables.replaceMap.keys) :
  key ∈ impliedKeys
  := by
  obtain ⟨entry, hentry, rfl⟩ := List.mem_map.mp hkey
  obtain ⟨t, -, hmem⟩ := h entry hentry
  apply Toggle.key_mem_impliedKeys hmem

end Tables

/-! ### Plain characters -/

/-- What is replaced is gone after the replacements. -/
theorem of_mem_replaced (himplied : tables.IsImplied) (hline : IsLine line)
    (hc : c ∈ Replacement.fix tables.replaceMap line) :
  IsLine [c] ∧ [c] ∉ tables.replaceMap.keys
  := by
  constructor
  · rcases Replacement.mem_of_mem_foldl hc with hc | ⟨entry, hentry, hc⟩
    · apply isLine_iff_forall.mp hline c hc
    · apply (himplied.of_mem hentry hc).1
  · intro hkey
    obtain ⟨entry, hentry, hk⟩ := List.mem_map.mp hkey
    apply Replacement.not_mem_foldl himplied.byCharacter hentry hk _ hc
    intro f hf hcf
    apply (himplied.of_mem hf hcf).2 (himplied.mem_impliedKeys hkey)

/-- Numbers are written without line ends and without anything that toggles replace. -/
theorem of_mem_ink (hc : c ∈ Numeral.ink g) :
  IsLine [c] ∧ [c] ∉ impliedKeys
  := by
  have hall : ((Numeral.ink g).all fun d => IsLine [d] ∧ [d] ∉ impliedKeys) = true := by
    cases g <;> decide
  apply of_decide_eq_true (List.all_eq_true.mp hall c hc)

/-- With names that mean something, the numbers of every line can be written. -/
theorem exists_convertNumerals (on : Bool) (hmode : numerals.mode? = .ok mode)
    (hglyphs : numerals.glyphs? = .ok g) (line : Text) :
  ∃ written, convertNumerals on numerals line = .ok written ∧
    ∀ c ∈ written, (on = true → c.isDigit = false) ∧ (c ∈ line ∨ c ∈ Numeral.ink g)
  := by
  cases on with
  | false => exact ⟨line, rfl, fun c hc => ⟨fun h => absurd h Bool.false_ne_true, .inl hc⟩⟩
  | true =>
      obtain ⟨written, hwritten, hchars⟩ := Numeral.exists_convert hmode hglyphs line
      exact ⟨written, hwritten, fun c hc => ⟨fun _ => (hchars c hc).1, (hchars c hc).2⟩⟩

/-- After replacements and numerals, all characters are plain. -/
theorem exists_written (settings : Settings) (himplied : tables.IsImplied)
    (hmode : numerals.mode? = .ok mode) (hglyphs : numerals.glyphs? = .ok g)
    (hline : IsLine line) :
  ∃ written,
    convertNumerals (settings .arabicNumerals) numerals
        (Replacement.fix tables.replaceMap line) = .ok written ∧
      ∀ c ∈ written, IsPlain settings tables c
  := by
  obtain ⟨written, hwritten, hchars⟩ := exists_convertNumerals (settings .arabicNumerals) hmode
    hglyphs (Replacement.fix tables.replaceMap line)
  use written
  use hwritten
  intro c hc
  obtain ⟨hdigit, hc | hc⟩ := hchars c hc
  · obtain ⟨hcline, hkey⟩ := of_mem_replaced himplied hline hc
    exact ⟨hcline, hkey, hdigit⟩
  · obtain ⟨hcline, hkey⟩ := of_mem_ink hc
    exact ⟨hcline, mt himplied.mem_impliedKeys hkey, hdigit⟩

/-- A line of plain characters is only changed by the rules on marks and spaces. -/
theorem convertLine_of_isPlain (himplied : tables.IsImplied)
    (hplain : ∀ c ∈ line, IsPlain settings tables c) :
  convertLine settings tables numerals line = .ok (applyRules settings tables line)
  := by
  have hreplaced : Replacement.fix tables.replaceMap line = line := by
    apply Replacement.foldl_of_not_mem
    intro entry hentry
    obtain ⟨k, hk⟩ := himplied.byCharacter entry hentry
    use k, hk
    intro hmem
    apply (hplain k hmem).not_mem_keys
    rw [← hk]
    apply List.mem_map_of_mem hentry
  have hwritten : convertNumerals (settings .arabicNumerals) numerals line = .ok line := by
    rw [convertNumerals]
    split
    · rename_i hon
      apply Numeral.convert_of_forall
      intro c hc
      apply (hplain c hc).not_isDigit hon
    · rfl
  rw [convertLine, hreplaced, hwritten]
  rfl

/-- The rules on marks and spaces put in plain characters only. -/
theorem isPlain_applyRules (himplied : tables.IsImplied)
    (hplain : ∀ c ∈ line, IsPlain settings tables c) :
  ∀ c ∈ applyRules settings tables line, IsPlain settings tables c
  := by
  intro c hc
  rcases mem_applyRules hc with hc | rfl
  · apply hplain c hc
  · exact ⟨by decide, mt himplied.mem_impliedKeys (by decide), fun _ => rfl⟩

/-! ### Converted lines -/

/-- Every line can be converted, and what was not in it comes from the replacement table, from a
number or is the gap that rules put in. -/
theorem exists_convertLine_of_mem (settings : Settings) (tables : Tables)
    (hmode : numerals.mode? = .ok mode) (hglyphs : numerals.glyphs? = .ok g) (line : Text) :
  ∃ out, convertLine settings tables numerals line = .ok out ∧
    ∀ c ∈ out, c ∈ line ∨ (∃ entry ∈ tables.replaceMap.entries, c ∈ entry.2) ∨
      c ∈ Numeral.ink g ∨ c = fullWidthSpace
  := by
  obtain ⟨written, hwritten, hchars⟩ := exists_convertNumerals (settings .arabicNumerals) hmode
    hglyphs (Replacement.fix tables.replaceMap line)
  use applyRules settings tables written
  constructor
  · rw [convertLine, hwritten]
    rfl
  · intro c hc
    rcases mem_applyRules hc with hc | hspace
    · rcases (hchars c hc).2 with hc | hink
      · rcases Replacement.mem_of_mem_foldl hc with hline | hentry
        · exact .inl hline
        · exact .inr (.inl hentry)
      · exact .inr (.inr (.inl hink))
    · exact .inr (.inr (.inr hspace))

/-- If no replacement writes a line end, every line is converted into a line. -/
theorem exists_isLine_convertLine (settings : Settings)
    (hvalues : ∀ entry ∈ tables.replaceMap.entries, IsLine entry.2)
    (hmode : numerals.mode? = .ok mode) (hglyphs : numerals.glyphs? = .ok g)
    (hline : IsLine line) :
  ∃ out, convertLine settings tables numerals line = .ok out ∧ IsLine out
  := by
  obtain ⟨out, hout, hchars⟩ := exists_convertLine_of_mem settings tables hmode hglyphs line
  use out
  use hout
  apply isLine_iff_forall.mpr
  intro c hc
  rcases hchars c hc with hc | ⟨entry, hentry, hc⟩ | hc | rfl
  · apply isLine_iff_forall.mp hline c hc
  · apply isLine_iff_forall.mp (hvalues entry hentry) c hc
  · apply (of_mem_ink hc).1
  · decide

/-- Every line can be converted, and the result is a clean line that is not changed any more. -/
theorem exists_convertLine (hdisjoint : tables.IsDisjoint)
    (hspace : (tables.charClass .spaces).contains fullWidthSpace = true)
    (himplied : tables.IsImplied) (hmode : numerals.mode? = .ok mode)
    (hglyphs : numerals.glyphs? = .ok g) (hline : IsLine line) :
  ∃ out, convertLine settings tables numerals line = .ok out ∧ IsLine out ∧
    convertLine settings tables numerals out = .ok out ∧
    ∀ number, lintLine settings tables number out = []
  := by
  obtain ⟨written, hwritten, hplain⟩ := exists_written settings himplied hmode hglyphs hline
  have hfeed : '\n' ∉ written := fun h => (hplain _ h).isLine.2 List.mem_cons_self
  have hplain' := isPlain_applyRules himplied hplain
  have hout : IsLine (applyRules settings tables written) :=
    isLine_iff_forall.mpr fun c hc => (hplain' c hc).isLine
  use applyRules settings tables written
  refine ⟨?_, hout, ?_, ?_⟩
  · rw [convertLine, hwritten]
    rfl
  · rw [convertLine_of_isPlain himplied hplain', applyRules_of_isTidy hout.2]
    intro t _ hon
    apply isTidy_applyRules hdisjoint hspace hfeed hon
  · intro number
    apply lintLine_applyRules hdisjoint hspace hfeed

end JapaneseProse
