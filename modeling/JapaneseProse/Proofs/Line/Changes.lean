import JapaneseProse.Line
import JapaneseProse.Proofs.Rule.Doubling
import JapaneseProse.Proofs.Rule.Gap
import JapaneseProse.Proofs.Rule.LineEnd
import JapaneseProse.Proofs.Rule.LineHead
import JapaneseProse.Proofs.Rule.Neighbour
import JapaneseProse.Proofs.Rule.Repetition

/-!
# Changes of a line

The rules rewrite a line one after another (`applyRules_eq_foldl`), and each of them does so by
small changes (`Change`, `reaches_rewrite`).  What every small change keeps, the rules keep
(`applyRules_induction`).

* `mem_applyRules`: the rules write no new character but the full-width space.
* `authorText_convertLine`: what the author wrote, apart from marks and spaces, is neither lost
  nor reordered.
-/

namespace JapaneseProse

/-- The toggles of the rules on marks and spaces, in the order in which the rules are applied. -/
def Toggle.ruleOrder : List Toggle :=
  [lineHeadSpace, punctuationBeforeBracket, doubleDash, doubleLeaders, repeatedPunctuation,
    punctuationAfterExclamation, spaceAfterExclamation, repeatedCharacters, trailingSpaces]

/-- The tables of the characters behind which the rule of a toggle drops others, and of the
characters that it drops. -/
def Toggle.dropsBehind? : Toggle → Option (Table × Table)
  | .repeatedPunctuation => some (.punctuation, .punctuation)
  | .punctuationAfterExclamation => some (.exclamations, .punctuation)
  | .repeatedCharacters => some (.noRepeat, .noRepeat)
  | _ => none

/-- The table of the characters that the rule of a toggle doubles. -/
def Toggle.doubles? : Toggle → Option Table
  | .doubleDash => some .dashes
  | .doubleLeaders => some .leaders
  | _ => none

namespace Tables

/-- What the rule of a toggle makes of a line. -/
def rewrite (tables : Tables) : Toggle → Text → Text
  | .lineHeadSpace =>
      LineHead.fix (tables.entries .spaces) (tables.entries .leftBrackets) [fullWidthSpace]
  | .punctuationBeforeBracket =>
      Neighbour.fixBefore (tables.entries .rightBrackets) (tables.entries .punctuation)
  | .doubleDash => Doubling.fix (tables.entries .dashes)
  | .doubleLeaders => Doubling.fix (tables.entries .leaders)
  | .repeatedPunctuation => Repetition.fix (tables.entries .punctuation) true
  | .punctuationAfterExclamation =>
      Neighbour.fixAfter (tables.entries .exclamations) (tables.entries .punctuation)
  | .spaceAfterExclamation =>
      Gap.fix (tables.entries .exclamations) [fullWidthSpace] tables.noGapBefore true
  | .repeatedCharacters => Repetition.fix (tables.entries .noRepeat) false
  | .trailingSpaces => LineEnd.fix (tables.entries .spaces)
  | .arabicNumerals | .halfWidthExclamation => id

/-- The small changes that the rule of a toggle makes. -/
inductive Change (tables : Tables) : Toggle → Text → Text → Prop where
  | indent (s : Text) : Change tables .lineHeadSpace s (fullWidthSpace :: s)
  | dropBehind {t : Toggle} {a b : Table} (ht : t.dropsBehind? = some (a, b)) (u v : Text)
      {c d : Char} (hc : (tables.charClass a).contains c = true)
      (hd : (tables.charClass b).contains d = true) :
      Change tables t (u ++ [c, d] ++ v) (u ++ [c] ++ v)
  | dropBefore (u v : Text) {c d : Char}
      (hc : (tables.charClass .rightBrackets).contains c = true)
      (hd : (tables.charClass .punctuation).contains d = true) :
      Change tables .punctuationBeforeBracket (u ++ [d, c] ++ v) (u ++ [c] ++ v)
  | double {t : Toggle} {a : Table} (ht : t.doubles? = some a) (u v : Text) {c : Char}
      (hc : (tables.charClass a).contains c = true) :
      Change tables t (u ++ [c] ++ v) (u ++ [c, c] ++ v)
  | insertGap (u v : Text) {c : Char} (d : Char)
      (hc : (tables.charClass .exclamations).contains c = true) :
      Change tables .spaceAfterExclamation (u ++ [c, d] ++ v) (u ++ [c, fullWidthSpace, d] ++ v)
  | trim {s s' : Text} (h : LineEnd.Trim (tables.charClass .spaces) s s') :
      Change tables .trailingSpaces s s'

end Tables

variable {settings : Settings} {tables : Tables} {t : Toggle} {s s' : Text}

/-! ### The rules as small changes -/

/-- The rules are applied one after another. -/
theorem applyRules_eq_foldl (settings : Settings) (tables : Tables) (line : Text) :
  applyRules settings tables line =
    Toggle.ruleOrder.foldl (fun s t => applyIf (settings t) (tables.rewrite t) s) line
  := rfl

/-- Small changes inside a line that are changes of a rule make up changes of the rule. -/
theorem reaches_of_within {r : Text → Text → Prop}
    (h : ∀ s s' u v, r s s' → tables.Change t (u ++ s ++ v) (u ++ s' ++ v))
    (hreach : Reaches r s s') :
  Relation.ReflTransGen (tables.Change t) s s'
  := by
  apply Relation.ReflTransGen.mono _ _ _ hreach
  rintro _ _ ⟨u, v, hchange⟩
  apply h _ _ u v hchange

/-- What a rule makes of a line is reached by its small changes. -/
theorem reaches_rewrite (tables : Tables) (t : Toggle) (line : Text) :
  Relation.ReflTransGen (tables.Change t) line (tables.rewrite t line)
  := by
  cases t with
  | arabicNumerals => exact Relation.ReflTransGen.refl
  | halfWidthExclamation => exact Relation.ReflTransGen.refl
  | lineHeadSpace =>
      rw [Tables.rewrite, LineHead.fix]
      split
      · apply Relation.ReflTransGen.single (.indent line)
      · exact Relation.ReflTransGen.refl
  | punctuationBeforeBracket =>
      apply reaches_of_within _ (Neighbour.reaches_fixBefore _ _ line)
      rintro _ _ u v ⟨hc, hd⟩
      exact .dropBefore u v hc hd
  | doubleDash =>
      apply reaches_of_within _ (Doubling.reaches_fix _ line)
      rintro _ _ u v ⟨hc⟩
      exact .double rfl u v hc
  | doubleLeaders =>
      apply reaches_of_within _ (Doubling.reaches_fix _ line)
      rintro _ _ u v ⟨hc⟩
      exact .double rfl u v hc
  | repeatedPunctuation =>
      apply reaches_of_within _ (Repetition.reaches_fix _ _ line)
      rintro _ _ u v ⟨hrepeats⟩
      exact .dropBehind rfl u v hrepeats.1 hrepeats.contains_second
  | punctuationAfterExclamation =>
      apply reaches_of_within _ (Neighbour.reaches_fixAfter _ _ line)
      rintro _ _ u v ⟨hc, hd⟩
      exact .dropBehind rfl u v hc hd
  | spaceAfterExclamation =>
      apply reaches_of_within _ (Gap.reaches_fix _ _ _ line)
      rintro _ _ u v ⟨hc, -⟩
      exact .insertGap u v _ hc
  | repeatedCharacters =>
      apply reaches_of_within _ (Repetition.reaches_fix _ _ line)
      rintro _ _ u v ⟨hrepeats⟩
      exact .dropBehind rfl u v hrepeats.1 hrepeats.contains_second
  | trailingSpaces => apply Relation.ReflTransGen.single (.trim (LineEnd.trim_fix _ line))

/-- What every small change of a toggle keeps, its rule keeps. -/
theorem rewrite_induction {motive : Text → Prop}
    (change : ∀ s s', tables.Change t s s' → motive s → motive s') {line : Text}
    (h : motive line) :
  motive (tables.rewrite t line)
  := by
  have hreach := reaches_rewrite tables t line
  generalize tables.rewrite t line = out at hreach
  induction hreach with
  | refl => exact h
  | tail _ hstep ih => apply change _ _ hstep ih

/-- What every small change keeps, the rules keep, whichever of them are on. -/
theorem applyRules_induction {motive : Text → Prop}
    (change : ∀ t s s', tables.Change t s s' → motive s → motive s') {line : Text}
    (h : motive line) :
  motive (applyRules settings tables line)
  := by
  rw [applyRules_eq_foldl]
  generalize Toggle.ruleOrder = order
  induction order generalizing line with
  | nil => exact h
  | cons t order ih =>
      rw [List.foldl_cons]
      apply ih
      rw [applyIf]
      split
      · apply rewrite_induction (change t) h
      · exact h

/-- Without replacements and numerals, only the rules on marks and spaces convert a line. -/
theorem convertLine_eq_applyRules {numerals : Numeral.Config} {line : Text}
    (hnumerals : settings .arabicNumerals = false) (hmap : tables.replaceMap.entries = []) :
  convertLine settings tables numerals line = .ok (applyRules settings tables line)
  := by
  rw [convertLine, Replacement.fix, hmap, hnumerals]
  rfl

/-! ### What is written -/

/-- A small change writes no new character but the full-width space. -/
theorem Tables.Change.mem (h : tables.Change t s s') {c : Char} (hc : c ∈ s') :
  c ∈ s ∨ c = fullWidthSpace
  := by
  cases h with
  | indent =>
      rcases List.mem_cons.mp hc with rfl | hc
      · exact .inr rfl
      · exact .inl hc
  | dropBehind | dropBefore | double =>
      left
      simp only [List.mem_append, List.mem_cons] at hc ⊢
      tauto
  | insertGap =>
      simp only [List.mem_append, List.mem_cons] at hc ⊢
      tauto
  | trim h =>
      obtain ⟨u, _, _⟩ := h
      left
      simp only [List.mem_append] at hc ⊢
      tauto

/-- The rules write no new character but the full-width space. -/
theorem mem_applyRules {line : Text} {c : Char} (hc : c ∈ applyRules settings tables line) :
  c ∈ line ∨ c = fullWidthSpace
  := by
  revert c
  apply applyRules_induction (motive := fun s => ∀ c ∈ s, c ∈ line ∨ c = fullWidthSpace)
  · intro t s s' hchange ih c hc
    rcases hchange.mem hc with hc | hc
    · apply ih c hc
    · exact .inr hc
  · intro c hc
    exact .inl hc

/-! ### What the author wrote -/

/-- The tables whose characters the rules drop, double or put in. -/
def Table.adjusted : List Table := [punctuation, dashes, leaders, noRepeat, spaces]

theorem mem_adjusted_of_dropsBehind? {a b : Table} (ht : t.dropsBehind? = some (a, b)) :
  b ∈ Table.adjusted
  := by
  cases t <;> cases ht <;> decide

theorem mem_adjusted_of_doubles? {a : Table} (ht : t.doubles? = some a) :
  a ∈ Table.adjusted
  := by
  cases t <;> cases ht <;> decide

/-- Whether a character is one that the rules may drop, double or put in. -/
def Tables.isAdjusted (tables : Tables) (c : Char) : Bool :=
  c == fullWidthSpace || Table.adjusted.any fun t => (tables.charClass t).contains c

/-- The characters of a text that the rules have to keep. -/
def Tables.authorText (tables : Tables) (s : Text) : Text := s.filter fun c => !tables.isAdjusted c

theorem isAdjusted_of_mem {u : Table} (hu : u ∈ Table.adjusted) {c : Char}
    (hc : (tables.charClass u).contains c = true) :
  tables.isAdjusted c = true
  := by
  rw [Tables.isAdjusted, Bool.or_eq_true, List.any_eq_true]
  exact .inr ⟨u, hu, hc⟩

@[simp]
theorem isAdjusted_fullWidthSpace (tables : Tables) :
  tables.isAdjusted fullWidthSpace = true
  := by
  simp [Tables.isAdjusted]

@[simp]
theorem authorText_append (tables : Tables) (s s' : Text) :
  tables.authorText (s ++ s') = tables.authorText s ++ tables.authorText s'
  := List.filter_append ..

theorem authorText_cons (tables : Tables) (c : Char) (s : Text) :
  tables.authorText (c :: s) =
    if tables.isAdjusted c then tables.authorText s else c :: tables.authorText s
  := by
  rw [Tables.authorText, List.filter_cons]
  by_cases hc : tables.isAdjusted c = true
  · rw [if_neg (by simp [hc]), if_pos hc]
    rfl
  · rw [if_pos (by simp [hc]), if_neg hc]
    rfl

theorem authorText_of_forall (h : ∀ c ∈ s, tables.isAdjusted c = true) :
  tables.authorText s = []
  := by
  rw [Tables.authorText, List.filter_eq_nil_iff]
  intro c hc
  simp [h c hc]

/-- A small change keeps what the author wrote. -/
theorem Tables.Change.authorText (h : tables.Change t s s') :
  tables.authorText s' = tables.authorText s
  := by
  cases h with
  | indent => simp [authorText_cons]
  | dropBehind ht u v hc hd =>
      have hd := isAdjusted_of_mem (mem_adjusted_of_dropsBehind? ht) hd
      simp [authorText_cons, hd]
  | dropBefore u v hc hd =>
      have hd := isAdjusted_of_mem (u := .punctuation) (by decide) hd
      simp [authorText_cons, hd]
  | double ht u v hc =>
      have hc := isAdjusted_of_mem (mem_adjusted_of_doubles? ht) hc
      simp [authorText_cons, hc]
  | insertGap => simp [authorText_cons]
  | trim h =>
      obtain ⟨u, hw, _⟩ := h
      have hw := authorText_of_forall fun c hc =>
        isAdjusted_of_mem (u := .spaces) (by decide) (hw c hc)
      simp [hw]

/-- Converting a line by the rules on marks and spaces keeps what the author wrote: nothing is
lost, put in or moved but marks of the tables that are adjusted and full-width spaces. -/
theorem authorText_convertLine (settings : Settings) (tables : Tables)
    (numerals : Numeral.Config) (line : Text) (hnumerals : settings .arabicNumerals = false)
    (hmap : tables.replaceMap.entries = []) :
  ∃ out, convertLine settings tables numerals line = .ok out ∧
    tables.authorText out = tables.authorText line
  := by
  use applyRules settings tables line
  constructor
  · apply convertLine_eq_applyRules hnumerals hmap
  · apply applyRules_induction (motive := fun s => tables.authorText s = tables.authorText line)
    · intro t s s' hchange ih
      rw [hchange.authorText, ih]
    · rfl

/-- Punctuation that is an exclamation as well does not put the author's text at risk. -/
theorem authorText_convertLine_of_overlap :
  let settings := Settings.allOn.switch .arabicNumerals false
  let tables := Tables.standard.setEntries .exclamations [['！'], ['。', 'っ']]
  let line := ['歩', 'っ', 'っ', 'た', '。', '、', '」', '！', '―', '何', '…', '3', ' ']
  settings .arabicNumerals = false ∧ tables.replaceMap.entries = [] ∧
    ∃ out, convertLine settings tables { } line = .ok out ∧
      tables.authorText out = ['歩', 'た', '」', '！', '何', '3']
  := by
  intro settings tables line
  obtain ⟨out, hout, htext⟩ := authorText_convertLine settings tables { } line rfl rfl
  exact ⟨rfl, rfl, out, hout, htext.trans (by decide)⟩

end JapaneseProse
