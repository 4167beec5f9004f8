import JapaneseProse.Proofs.Document.Findings
import JapaneseProse.Proofs.Engine.Session
import JapaneseProse.Proofs.Rule.Replacement

/-!
# The history of toggles

Engines that were made of the same tables and are at the same settings may list the entries that
toggles stand for in different orders, according to what was switched before.  The given entries
come first in all of them, and the others can be applied in any order (`fix_eq_of_follows`), so the
engines convert and lint every text in the same way (`convert_lint_of_same_settings`).
-/

namespace JapaneseProse

variable {settings : Settings} {tables tables' : Tables}

/-! ### Entries that toggles stand for, in any order -/

/-- Two entries that toggles stand for can be applied in either order. -/
theorem Replacement.applyEntry_comm {t u : Toggle} {x y : Text × Text}
    (hx : x ∈ t.impliedEntries) (hy : y ∈ u.impliedEntries) (hne : x.1 ≠ y.1) (line : Text) :
  applyEntry (applyEntry line x) y = applyEntry (applyEntry line y) x
  := by
  obtain ⟨k, hk⟩ := Toggle.exists_key hx
  obtain ⟨k', hk'⟩ := Toggle.exists_key hy
  obtain ⟨_, v⟩ := x
  obtain ⟨_, v'⟩ := y
  obtain rfl := hk
  obtain rfl := hk'
  simp only [applyEntry_singleton]
  apply replaceAll_comm
  · rintro rfl
    apply hne rfl
  · intro hmem
    apply Toggle.not_mem_impliedKeys_of_mem hy hmem (Toggle.key_mem_impliedKeys hx)
  · intro hmem
    apply Toggle.not_mem_impliedKeys_of_mem hx hmem (Toggle.key_mem_impliedKeys hy)

namespace ReplaceMap

variable {m n : ReplaceMap} {rest : List (Text × Text)}

/-- Behind the own entries, a table that follows the settings has only entries that toggles stand
for. -/
theorem exists_toggle_of_mem_rest (h : ∀ t, m.Follows t (settings t))
    (hrest : m.entries = m.ownEntries ++ rest) {entry : Text × Text} (hentry : entry ∈ rest) :
  ∃ t : Toggle, entry ∈ t.impliedEntries
  := by
  obtain ⟨t, e, he, hk⟩ := mem_impliedKeys_iff.mp (key_mem_impliedKeys_of_mem_rest hrest hentry)
  have hmem : entry ∈ m.entries := hrest ▸ List.mem_append_right _ hentry
  use t
  apply ((h t entry (hk ▸ List.mem_map_of_mem he)).mp hmem).2

/-- Tables with the same own entries in front that follow the same settings replace the same. -/
theorem fix_eq_of_follows (hm : ∀ t, m.Follows t (settings t)) (hn : ∀ t, n.Follows t (settings t))
    (hown : m.ownEntries = n.ownEntries) (hmFirst : m.OwnFirst) (hnFirst : n.OwnFirst)
    (line : Text) :
  Replacement.fix m line = Replacement.fix n line
  := by
  obtain ⟨rest, hrest⟩ := hmFirst
  obtain ⟨rest', hrest'⟩ := hnFirst
  have hperm : rest.Perm rest' := by
    have hall := perm_of_follows hm hn hown
    rw [hrest, hrest', ← hown] at hall
    apply (List.perm_append_left_iff _).mp hall
  rw [Replacement.fix, Replacement.fix, hrest, hrest', ← hown, List.foldl_append, List.foldl_append]
  apply hperm.foldl_eq'
  intro x hx y hy z
  obtain ⟨t, ht⟩ := exists_toggle_of_mem_rest hm hrest hx
  obtain ⟨u, hu⟩ := exists_toggle_of_mem_rest hm hrest hy
  by_cases hkeys : x.1 = y.1
  · have hmem : ∀ entry ∈ rest, entry ∈ m.entries := by
      intro entry hentry
      rw [hrest]
      apply List.mem_append_right _ hentry
    obtain rfl : x = y := List.inj_on_of_nodup_map m.nodup (hmem x hx) (hmem y hy) hkeys
    rfl
  · apply Replacement.applyEntry_comm ht hu hkeys

end ReplaceMap

/-! ### Tables that replace the same -/

theorem convertLine_congr (settings : Settings) (numerals : Numeral.Config)
    (hentries : tables.entries = tables'.entries) {line : Text}
    (hfix : Replacement.fix tables.replaceMap line = Replacement.fix tables'.replaceMap line) :
  convertLine settings tables numerals line = convertLine settings tables' numerals line
  := by
  obtain ⟨m, entries, newline⟩ := tables
  obtain ⟨m', entries', newline'⟩ := tables'
  obtain rfl : entries = entries' := hentries
  rw [convertLine, hfix]
  rfl

/-- Tables that replace the same and are otherwise equal convert every text in the same way. -/
theorem convertText_congr (settings : Settings) (numerals : Numeral.Config)
    (hentries : tables.entries = tables'.entries) (hnewline : tables.newline = tables'.newline)
    (hfix : ∀ line,
      Replacement.fix tables.replaceMap line = Replacement.fix tables'.replaceMap line)
    (text : Text) :
  convertText settings tables numerals text = convertText settings tables' numerals text
  := by
  have hline : convertLine settings tables numerals = convertLine settings tables' numerals := by
    funext line
    apply convertLine_congr settings numerals hentries (hfix line)
  rw [convertText, convertText, hline, hnewline]

/-- Replacements play no part when a text is linted. -/
theorem lintText_congr (settings : Settings) (hentries : tables.entries = tables'.entries)
    (text : Text) :
  lintText settings tables text = lintText settings tables' text
  := by
  obtain ⟨m, entries, newline⟩ := tables
  obtain ⟨m', entries', newline'⟩ := tables'
  obtain rfl : entries = entries' := hentries
  simp only [lintText, lintLinesFrom_eq_flatMap]
  rfl

/-! ### Engines with a history -/

namespace Engine

variable {e e' : Engine} {given : Tables} {numerals : Numeral.Config}

theorem IsInStep.fix_eq (h : IsInStep given numerals e) (h' : IsInStep given numerals e')
    (hfree : ∀ key ∈ given.replaceMap.keys, key ∉ impliedKeys) (hsame : e.settings = e'.settings)
    (line : Text) :
  Replacement.fix e.tables.replaceMap line = Replacement.fix e'.tables.replaceMap line
  := by
  have hfirst := ReplaceMap.ownFirst_of_forall hfree
  have hown := h.ownEntries_eq.trans h'.ownEntries_eq.symm
  have hfollows' : ∀ t, e'.tables.replaceMap.Follows t (e.settings t) := hsame ▸ h'.follows
  apply ReplaceMap.fix_eq_of_follows h.follows hfollows' hown (h.ownFirst hfirst)
  apply h'.ownFirst hfirst

/-- Engines made of the same tables, in which no entry has a key that toggles stand for, convert
and lint every text in the same way once they are at the same settings, whatever they were made
with and were asked for before.  One of them may be new and have had no calls at all. -/
theorem convert_lint_of_same_settings (settings settings' : Settings) (tables : Tables)
    (numerals : Numeral.Config) (calls calls' : List Call)
    (hfree : ∀ key ∈ tables.replaceMap.keys, key ∉ impliedKeys)
    (hsame : (after (.make settings tables numerals) calls).settings =
      (after (.make settings' tables numerals) calls').settings)
    (text : Text) :
  (after (.make settings tables numerals) calls).convert text =
      (after (.make settings' tables numerals) calls').convert text ∧
    (after (.make settings tables numerals) calls).lint text =
      (after (.make settings' tables numerals) calls').lint text
  := by
  have h := (isInStep_make settings tables numerals).after calls
  have h' := (isInStep_make settings' tables numerals).after calls'
  have hentries := h.entries_eq.trans h'.entries_eq.symm
  have hnewline := h.newline_eq.trans h'.newline_eq.symm
  have hnumerals := h.numerals_eq.trans h'.numerals_eq.symm
  constructor
  · rw [convert, convert, process, process, hsame, hnumerals,
      convertText_congr _ _ hentries hnewline (h.fix_eq h' hfree hsame)]
  · rw [lint, lint, process, process, hsame, lintText_congr _ hentries]

/-- Marks are switched off and on again in one engine, digits are switched on late in the other, and
the given entries write what toggles replace. -/
theorem convert_lint_of_same_settings_reordered :
  let given : ReplaceMap := .ofList [(['a', '!'], ['!', '０']), (['x'], ['?'])]
  let tables : Tables := { Tables.standard with replaceMap := given }
  let calls : List Call :=
    [.setOption "convert_half_exclam" (.bool false), .setOption "verbose" .null,
      .setOption "convert_half_exclam" (.bool true)]
  let calls' : List Call := [.setOption "convert_arabic_num" (.string ['o', 'n'])]
  let e := after (.make .allOn tables { }) calls
  let e' := after (.make (Settings.allOn.switch .arabicNumerals false) tables { }) calls'
  let text : Text := ['a', '!', 'b', '、', '、', 'x']
  (∀ key ∈ given.keys, key ∉ impliedKeys) ∧ e.settings = e'.settings ∧
    e.tables.replaceMap.entries = given.entries ++ fullWidthDigits ++ halfWidthMarks ∧
    e'.tables.replaceMap.entries = given.entries ++ halfWidthMarks ++ fullWidthDigits ∧
    e.convert text = .ok ['\u3000', '！', '\u3000', '〇', 'b', '、', '？', '\n'] ∧
    e.convert text = e'.convert text ∧ e.lint text = e'.lint text
  := by
  intro given tables calls calls' e e' text
  have hfree : ∀ key ∈ given.keys, key ∉ impliedKeys := by decide
  have hsame : e.settings = e'.settings := by
    funext t
    cases t <;> decide +kernel
  obtain ⟨hconvert, hlint⟩ := convert_lint_of_same_settings .allOn
    (Settings.allOn.switch .arabicNumerals false) tables { } calls calls' hfree hsame text
  exact ⟨hfree, hsame, by decide +kernel, by decide +kernel, by decide +kernel, hconvert, hlint⟩

end Engine

end JapaneseProse
