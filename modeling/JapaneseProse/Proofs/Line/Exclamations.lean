import JapaneseProse.Proofs.Line.Reports
import JapaneseProse.Proofs.Line.Style

/-!
# Exclamation marks

Two rules are about what stands behind exclamation marks: punctuation there is dropped, and a gap is
put in front of anything else.

* `exclamations_reported_once`: findings of the two rules never share a column, as long as no
  exclamation mark is a punctuation mark, and if both rules are on, every run of exclamation marks
  behind which something is wrong is covered by exactly one finding.
* `convertLine_of_clean`: a clean line lacks at most the gaps in front of punctuation.
-/

namespace JapaneseProse

variable {settings : Settings} {tables : Tables} {number : Nat} {line : Text} {t : Toggle}
  {x y : Finding}

namespace Finding

/-- Two findings have a column in common. -/
def Overlaps (x y : Finding) : Prop := x.columnBegin < y.columnEnd ∧ y.columnBegin < x.columnEnd

/-- The span of a finding holds the columns from `i` to before `j`. -/
def Covers (x : Finding) (i j : Nat) : Prop := x.columnBegin ≤ i ∧ j ≤ x.columnEnd

instance (x : Finding) (i j : Nat) : Decidable (x.Covers i j) := inferInstanceAs (Decidable (_ ∧ _))

/-- Findings that cover the same columns overlap. -/
theorem Covers.overlaps {i j : Nat} (hx : x.Covers i j) (hy : y.Covers i j) (hij : i < j) :
  x.Overlaps y
  := ⟨Nat.lt_of_le_of_lt hx.1 (Nat.lt_of_lt_of_le hij hy.2),
    Nat.lt_of_le_of_lt hy.1 (Nat.lt_of_lt_of_le hij hx.2)⟩

end Finding

/-! ### What the findings hold -/

/-- Detected are marks of the first class, and behind them marks of the second. -/
theorem Neighbour.exists_detected {triggers victims : List Text}
    (h : x ∈ lintAfter triggers victims number line) :
  ∃ xs ys, ys ≠ [] ∧ x.detected = xs ++ ys ∧
    (∀ c ∈ xs, (CharClass.ofEntries triggers).contains c = true) ∧
    ∀ c ∈ ys, (CharClass.ofEntries victims).contains c = true
  := by
  obtain ⟨m, hm, rfl⟩ := List.mem_map.mp h
  apply Pattern.forall_mem_matchesIn (P := fun s => ∃ xs ys, ys ≠ [] ∧ s = xs ++ ys ∧
    (∀ c ∈ xs, (CharClass.ofEntries triggers).contains c = true) ∧
    ∀ c ∈ ys, (CharClass.ofEntries victims).contains c = true) (consuming_adjacent _ _) _ line m hm
  intro c s n hn
  rw [length?_adjacent, Option.map_eq_some_iff] at hn
  obtain ⟨⟨i, j⟩, hstretches, hij⟩ := hn
  change i + j = n + 1 at hij
  have hpair : pairAt? (.ofEntries triggers) (.ofEntries victims) (fun kept _ => kept) c s =
      some (i + j - 1, (c :: s).take i) := by
    rw [pairAt?, hstretches]
    rfl
  rw [hij] at hpair
  obtain ⟨xs, ys, -, hne, hsplit, -, hxs, hys, -⟩ := pairAt?_eq_some hpair
  exact ⟨xs, ys, hne, hsplit, hxs, hys⟩

/-- Detected are marks, and behind them a character that asks for a gap. -/
theorem Gap.exists_detected {marks excluded : List Text}
    (h : x ∈ lint marks excluded true number line) :
  ∃ xs d, x.detected = xs ++ [d] ∧
    (∀ c ∈ xs, (CharClass.ofEntries marks).contains c = true) ∧
    ¬(noGap marks excluded).contains d = true
  := by
  obtain ⟨m, hm, rfl⟩ := List.mem_map.mp h
  apply Pattern.forall_mem_matchesIn (P := fun s => ∃ xs d, s = xs ++ [d] ∧
    (∀ c ∈ xs, (CharClass.ofEntries marks).contains c = true) ∧
    ¬(noGap marks excluded).contains d = true) (consuming_pattern _ _ true) _ line m hm
  intro c s n hn
  obtain ⟨xs, y, d, hsplit, -, hmarks, hd⟩ :=
    claim?_pattern_eq_some (Pattern.claim?_eq_some (withGap [] true) hn)
  exact ⟨xs ++ [y], d, hsplit, hmarks, hd⟩

/-! ### Columns of the findings -/

/-- Punctuation behind exclamation marks is reported together with the marks, and it comes last. -/
theorem columns_of_mem_report_punctuation {s : Text}
    (hx : x ∈ tables.report .punctuationAfterExclamation number s) :
  (∀ i c, x.columnBegin ≤ i → i < x.columnEnd → s[i]? = some c →
      tables.Lists .exclamations c ∨ tables.Lists .punctuation c) ∧
    ∃ c, s[x.columnEnd - 1]? = some c ∧ tables.Lists .punctuation c
  := by
  obtain ⟨-, hlies⟩ := Tables.of_mem_report hx
  obtain ⟨xs, ys, hne, hsplit, hxs, hys⟩ := Neighbour.exists_detected hx
  constructor
  · intro i c hbegin hend hc
    rw [hlies.getElem?_eq hbegin hend, hsplit] at hc
    rcases List.mem_append.mp (List.mem_of_getElem? hc) with hc | hc
    · exact .inl (contains_iff_lists.mp (hxs c hc))
    · exact .inr (contains_iff_lists.mp (hys c hc))
  · rw [hlies.getElem?_last, hsplit, List.getLast?_append_of_ne_nil xs hne]
    use ys.getLast hne, List.getLast?_eq_some_getLast hne
    apply contains_iff_lists.mp (hys _ (List.getLast_mem hne))

/-- A missing gap is reported together with the exclamation marks and the character that is not
set off from them. -/
theorem columns_of_mem_report_gap {s : Text}
    (hx : x ∈ tables.report .spaceAfterExclamation number s) :
  (∀ i c, x.columnBegin ≤ i → i < x.columnEnd - 1 → s[i]? = some c →
      tables.Lists .exclamations c) ∧
    ∃ c, s[x.columnEnd - 1]? = some c ∧ ¬tables.Lists .exclamations c ∧
      ¬tables.Lists .punctuation c
  := by
  obtain ⟨-, hlies⟩ := Tables.of_mem_report hx
  obtain ⟨xs, d, hsplit, hxs, hd⟩ := Gap.exists_detected hx
  have hlen := hlies.length_detected
  rw [hsplit, List.length_append, List.length_singleton] at hlen
  constructor
  · intro i c hbegin hend hc
    rw [hlies.getElem?_eq hbegin (by omega), hsplit, List.getElem?_append_left (by omega)] at hc
    apply contains_iff_lists.mp (hxs c (List.mem_of_getElem? hc))
  · rw [hlies.getElem?_last, hsplit, List.getLast?_concat]
    use d, rfl
    rw [Gap.contains_noGap_iff, Tables.noGapReportedBefore, CharClass.contains_ofEntries_append,
      contains_iff_lists, contains_iff_lists] at hd
    tauto

section

variable (hdisjoint : ∀ c, tables.Lists .exclamations c → ¬tables.Lists .punctuation c)

include hdisjoint

/-- A missing gap is not reported where punctuation is. -/
theorem not_overlaps_of_mem_report
    (hx : x ∈ tables.report .punctuationAfterExclamation number line)
    (hy : y ∈ tables.report .spaceAfterExclamation number line) :
  ¬x.Overlaps y
  := by
  rintro ⟨hxy, hyx⟩
  obtain ⟨hmarks, c, hc, hpunctuation⟩ := columns_of_mem_report_punctuation hx
  obtain ⟨hrun, d, hd, hmark, hother⟩ := columns_of_mem_report_gap hy
  -- The span that ends first ends in the other one.
  by_cases hends : x.columnEnd < y.columnEnd
  · have hexclamation := hrun _ c (by omega) (by omega) hc
    apply hdisjoint c hexclamation hpunctuation
  · rcases hmarks _ d (by omega) (by omega) hd with hd | hd
    · apply hmark hd
    · apply hother hd

/-- What the two rules report ends behind the exclamation marks. -/
theorem exists_last_of_mem_report {s : Text}
    (ht : t = .punctuationAfterExclamation ∨ t = .spaceAfterExclamation)
    (hx : x ∈ tables.report t number s) :
  ∃ c, s[x.columnEnd - 1]? = some c ∧ ¬tables.Lists .exclamations c
  := by
  rcases ht with rfl | rfl
  · obtain ⟨-, c, hc, hpunctuation⟩ := columns_of_mem_report_punctuation hx
    exact ⟨c, hc, fun hmark => hdisjoint c hmark hpunctuation⟩
  · obtain ⟨-, c, hc, hmark, -⟩ := columns_of_mem_report_gap hx
    exact ⟨c, hc, hmark⟩

/-! ### Runs that are reported -/

section

variable {u r v : Text} {d : Char}
variable (hne : r ≠ []) (hr : ∀ c ∈ r, tables.Lists .exclamations c)
variable (hd : ¬tables.Lists .exclamations d)

include hr

/-- What the two rules report of a place in a run covers the run from there on. -/
theorem covers_of_mem_report
    (ht : t = .punctuationAfterExclamation ∨ t = .spaceAfterExclamation)
    (hx : x ∈ tables.report t number (u ++ r ++ v)) (hbegin : x.columnBegin ≤ u.length)
    (hend : u.length < x.columnEnd) :
  x.Covers u.length (u.length + r.length)
  := by
  use hbegin
  by_contra hlt
  obtain ⟨c, hc, hmark⟩ := exists_last_of_mem_report hdisjoint ht hx
  rw [List.append_assoc, List.getElem?_append_right (by omega),
    List.getElem?_append_left (by omega)] at hc
  apply hmark (hr c (List.mem_of_getElem? hc))

include hne hd

/-- A run behind which punctuation stands, or a character that asks for a gap, is covered. -/
theorem exists_covers (hfeed : d ≠ '\n')
    (hnext : tables.Lists .punctuation d ∨
      ¬tables.Lists .rightBrackets d ∧ ¬tables.Lists .spaces d) (number : Nat) :
  ∃ t, (t = .punctuationAfterExclamation ∨ t = .spaceAfterExclamation) ∧
    ∃ x ∈ tables.report t number (u ++ r ++ d :: v), x.Covers u.length (u.length + r.length)
  := by
  have hmarks : ∀ c ∈ r, (CharClass.ofEntries (tables.entries .exclamations)).contains c = true :=
    fun c hc => contains_iff_lists.mpr (hr c hc)
  have hmark := mt contains_iff_lists.mp hd
  have hpos := List.length_pos_iff.mpr hne
  have hrun : Pattern.runLength (.ofEntries (tables.entries .exclamations)) (r ++ d :: v) =
      r.length := by
    rw [Pattern.runLength_append_of_forall hmarks, Pattern.runLength_cons_of_neg v hmark]
    rfl
  by_cases hpunctuation : tables.Lists .punctuation d
  · have hmatch : (Neighbour.adjacent (.ofEntries (tables.entries .exclamations))
        (.ofEntries (tables.entries .punctuation))).length? (r ++ d :: v) ≠ none := by
      rw [Ne, Neighbour.length?_adjacent_eq_none_iff]
      intro hnone
      have hzero := hnone r.length hpos (Nat.le_of_eq hrun.symm)
      rw [List.drop_left, Pattern.runLength_cons_of_pos v (contains_iff_lists.mpr hpunctuation)]
        at hzero
      cases hzero
    obtain ⟨m, hm, hbegin, hend⟩ :=
      Pattern.exists_mem_matchesIn (Neighbour.consuming_adjacent _ _) u hmatch
    rw [← List.append_assoc] at hm
    have hx : Finding.ofMatch number .markAfterMark m ∈
        tables.report .punctuationAfterExclamation number (u ++ r ++ d :: v) :=
      List.mem_map_of_mem hm
    exact ⟨.punctuationAfterExclamation, .inl rfl, _, hx,
      covers_of_mem_report hdisjoint hr (.inl rfl) hx hbegin hend⟩
  · have hmatch : (Gap.pattern (tables.entries .exclamations) tables.noGapReportedBefore
        true).length? (r ++ d :: v) ≠ none := by
      rw [Ne, Gap.length?_pattern_eq_none_iff, hrun, List.drop_left]
      intro hnone
      apply hnone hpos
      constructor
      · rw [Gap.contains_noGap_iff, Tables.noGapReportedBefore,
          CharClass.contains_ofEntries_append, CharClass.contains_ofEntries_append]
        simp only [contains_iff_lists]
        tauto
      · intro _
        exact hfeed
    obtain ⟨m, hm, hbegin, hend⟩ :=
      Pattern.exists_mem_matchesIn (Gap.consuming_pattern _ _ true) u hmatch
    rw [← List.append_assoc] at hm
    have hx : Finding.ofMatch number .missingGap m ∈
        tables.report .spaceAfterExclamation number (u ++ r ++ d :: v) :=
      List.mem_map_of_mem hm
    exact ⟨.spaceAfterExclamation, .inr rfl, _, hx,
      covers_of_mem_report hdisjoint hr (.inr rfl) hx hbegin hend⟩

end

end

/-! ### Findings of both rules -/

/-- The kind of the findings of a rule. -/
def Toggle.kind? : Toggle → Option Finding.Kind
  | .lineHeadSpace => some .missingIndent
  | .punctuationBeforeBracket => some .markBeforeMark
  | .doubleDash | .doubleLeaders => some .isolatedMark
  | .repeatedPunctuation | .repeatedCharacters => some .repetition
  | .punctuationAfterExclamation => some .markAfterMark
  | .spaceAfterExclamation => some .missingGap
  | .arabicNumerals | .trailingSpaces | .halfWidthExclamation => none

theorem Tables.kind_of_mem_report (h : x ∈ tables.report t number line) :
  t.kind? = some x.kind
  := by
  cases t with
  | lineHeadSpace =>
      obtain ⟨ms, -, -, hlint⟩ :=
        LineHead.exists_lint (tables.entries .spaces) (tables.entries .leftBrackets) line
      change x ∈ LineHead.lint _ _ number line at h
      rw [hlint] at h
      obtain ⟨m, -, rfl⟩ := List.mem_map.mp h
      rfl
  | arabicNumerals | trailingSpaces | halfWidthExclamation => exact absurd h List.not_mem_nil
  | punctuationBeforeBracket | doubleDash | doubleLeaders | repeatedPunctuation
  | punctuationAfterExclamation | spaceAfterExclamation | repeatedCharacters =>
      obtain ⟨m, -, rfl⟩ := List.mem_map.mp h
      rfl

/-- The finding is about what stands behind a mark. -/
def Finding.IsBehindMark (x : Finding) : Prop := x.kind = .markAfterMark ∨ x.kind = .missingGap

instance (x : Finding) : Decidable x.IsBehindMark := inferInstanceAs (Decidable (_ ∨ _))

/-- The kinds of findings about what stands behind a mark are those of one rule each. -/
theorem eq_of_kind {u : Toggle} (h : x ∈ tables.report t number line)
    (hu : u = .punctuationAfterExclamation ∨ u = .spaceAfterExclamation)
    (hkind : some x.kind = u.kind?) :
  t = u
  := by
  have ht := (Tables.kind_of_mem_report h).trans hkind
  rcases hu with rfl | rfl <;> cases t <;> first | rfl | cases ht

theorem isBehindMark_iff (h : x ∈ tables.report t number line) :
  x.IsBehindMark ↔ t = .punctuationAfterExclamation ∨ t = .spaceAfterExclamation
  := by
  constructor
  · rintro (hkind | hkind)
    · exact .inl (eq_of_kind h (.inl rfl) (congrArg some hkind))
    · exact .inr (eq_of_kind h (.inr rfl) (congrArg some hkind))
  · have hkind := Tables.kind_of_mem_report h
    rintro (rfl | rfl)
    · exact .inl (Option.some.inj hkind).symm
    · exact .inr (Option.some.inj hkind).symm

theorem mem_lintLine_iff :
  x ∈ lintLine settings tables number line ↔
    ∃ t ∈ Toggle.ruleOrder, settings t = true ∧ x ∈ tables.report t number line
  := by
  rw [lintLine_eq_flatMap, List.mem_flatMap]
  simp only [mem_reportIf_iff]

/-- Findings about what stands behind marks lie apart from each other. -/
theorem pairwise_not_overlaps
    (hdisjoint : ∀ c, tables.Lists .exclamations c → ¬tables.Lists .punctuation c)
    (settings : Settings) (number : Nat) (line : Text) :
  (lintLine settings tables number line).Pairwise fun x y =>
    x.IsBehindMark → y.IsBehindMark → ¬x.Overlaps y
  := by
  rw [← map_snd_lineReports, List.pairwise_map]
  apply (pairwise_lineReports settings tables number line).imp_of_mem
  rintro ⟨t, x⟩ ⟨u, y⟩ hx hy hprecedes hxkind hykind hoverlaps
  obtain ⟨-, -, hx⟩ := mem_lineReports_iff.mp hx
  obtain ⟨-, -, hy⟩ := mem_lineReports_iff.mp hy
  have hsame (htu : t = u) : False := by
    subst htu
    rcases hprecedes with hline | ⟨-, hrule | ⟨-, -, hend⟩⟩
    · rw [(Tables.of_mem_report hx).1, (Tables.of_mem_report hy).1] at hline
      apply Nat.lt_irrefl _ hline
    · apply Nat.lt_irrefl _ hrule
    · apply Nat.not_le_of_lt hoverlaps.2 hend
  rcases (isBehindMark_iff hx).mp hxkind with rfl | rfl <;>
    rcases (isBehindMark_iff hy).mp hykind with rfl | rfl
  · apply hsame rfl
  · apply not_overlaps_of_mem_report hdisjoint hx hy hoverlaps
  · apply not_overlaps_of_mem_report hdisjoint hy hx ⟨hoverlaps.2, hoverlaps.1⟩
  · apply hsame rfl

/-- An item is the only one that a test keeps, if the test never keeps two. -/
theorem filter_eq_singleton {α : Type} {l : List α} {q : α → Bool} {a : α}
    (hl : l.Pairwise fun a b => q a = true → q b = true → False) (ha : a ∈ l)
    (hq : q a = true) :
  l.filter q = [a]
  := by
  have hmem := List.mem_filter.mpr ⟨ha, hq⟩
  rw [← List.pairwise_filter] at hl
  generalize l.filter q = kept at hl hmem ⊢
  cases hl with
  | nil => exact absurd hmem List.not_mem_nil
  | @cons b kept hb _ =>
      obtain rfl : kept = [] := List.eq_nil_iff_forall_not_mem.mpr hb
      rw [List.mem_singleton.mp hmem]

/-- If no exclamation mark is a punctuation mark, a line is never reported twice for what stands
behind a run of exclamation marks: punctuation there and a missing gap are never reported of the
same column.  If both rules are on, every run is covered by exactly one of these findings, if it is
followed by punctuation, or else by a character other than the line feed that is no exclamation
mark, no closing bracket and no space. -/
theorem exclamations_reported_once (settings : Settings) (tables : Tables) (number : Nat)
    (line : Text)
    (hdisjoint : ∀ c, tables.Lists .exclamations c → ¬tables.Lists .punctuation c) :
  (∀ x ∈ lintLine settings tables number line, ∀ y ∈ lintLine settings tables number line,
      x.kind = .markAfterMark → y.kind = .missingGap → ¬x.Overlaps y) ∧
    (settings .punctuationAfterExclamation = true → settings .spaceAfterExclamation = true →
      ∀ (u r : Text) (d : Char) (v : Text), line = u ++ r ++ d :: v → r ≠ [] →
        (∀ c ∈ r, tables.Lists .exclamations c) → ¬tables.Lists .exclamations d → d ≠ '\n' →
        (tables.Lists .punctuation d ∨
          ¬tables.Lists .rightBrackets d ∧ ¬tables.Lists .spaces d) →
        ∃ x, (lintLine settings tables number line).filter
          (fun y => y.IsBehindMark ∧ y.Covers u.length (u.length + r.length)) = [x])
  := by
  constructor
  · intro x hx y hy hxkind hykind
    obtain ⟨t, -, -, hx⟩ := mem_lintLine_iff.mp hx
    obtain ⟨t', -, -, hy⟩ := mem_lintLine_iff.mp hy
    obtain rfl := eq_of_kind hx (.inl rfl) (congrArg some hxkind)
    obtain rfl := eq_of_kind hy (.inr rfl) (congrArg some hykind)
    apply not_overlaps_of_mem_report hdisjoint hx hy
  · rintro hpunctuation hgap u r d v rfl hne hr hd hfeed hnext
    obtain ⟨t, ht, x, hx, hcovers⟩ := exists_covers hdisjoint hne hr hd hfeed hnext number
    have hon : t ∈ Toggle.ruleOrder ∧ settings t = true := by
      rcases ht with rfl | rfl
      · exact ⟨by decide, hpunctuation⟩
      · exact ⟨by decide, hgap⟩
    use x
    apply filter_eq_singleton _ (mem_lintLine_iff.mpr ⟨t, hon.1, hon.2, hx⟩)
      (decide_eq_true ⟨(isBehindMark_iff hx).mpr ht, hcovers⟩)
    -- Two findings that cover the run overlap, so there are no two.
    apply (pairwise_not_overlaps hdisjoint settings number (u ++ r ++ d :: v)).imp
    intro y z hapart hy hz
    obtain ⟨hykind, hy⟩ := of_decide_eq_true hy
    obtain ⟨hzkind, hz⟩ := of_decide_eq_true hz
    apply hapart hykind hzkind
    apply hy.overlaps hz (Nat.lt_add_of_pos_right (List.length_pos_iff.mpr hne))

/-- Two runs of exclamation marks, the first in front of punctuation. -/
theorem exclamations_reported_once_standard :
  let line := ['\u3000', '何', '！', '？', '。', '！', 'で']
  let found := lintLine .allOn .standard 1 line
  (∀ c, Tables.standard.Lists .exclamations c → ¬Tables.standard.Lists .punctuation c) ∧
    (∀ x ∈ found, ∀ y ∈ found, x.kind = .markAfterMark → y.kind = .missingGap → ¬x.Overlaps y) ∧
    (∃ x, found.filter (fun y => y.IsBehindMark ∧ y.Covers 2 4) = [x]) ∧
    ∃ x, found.filter (fun y => y.IsBehindMark ∧ y.Covers 5 6) = [x]
  := by
  intro line found
  have hdisjoint : Tables.standard.IsDisjoint := by decide
  have happart : ∀ c, Tables.standard.Lists .exclamations c →
      ¬Tables.standard.Lists .punctuation c := by
    intro c hc
    rw [← contains_iff_lists] at hc ⊢
    apply hdisjoint.not_contains hc (by decide)
  have hmark {c : Char} (hc : c = '！' ∨ c = '？') : Tables.standard.Lists .exclamations c := by
    rcases hc with rfl | rfl <;> exact contains_iff_lists.mp (by decide)
  have hnone {c : Char} {t : Table} (hc : (Tables.standard.charClass t).contains c = false) :
      ¬Tables.standard.Lists t c := by
    rw [← contains_iff_lists]
    exact ne_true_of_eq_false hc
  obtain ⟨hoverlap, hcover⟩ := exclamations_reported_once .allOn .standard 1 line happart
  use happart, hoverlap
  constructor
  · apply hcover rfl rfl ['\u3000', '何'] ['！', '？'] '。' ['！', 'で'] rfl
    · decide
    · simp [hmark]
    · exact hnone rfl
    · decide
    · exact .inl (contains_iff_lists.mp (by decide))
  · apply hcover rfl rfl ['\u3000', '何', '！', '？', '。'] ['！'] 'で' [] rfl
    · decide
    · simp [hmark]
    · exact hnone rfl
    · decide
    · exact .inr ⟨hnone rfl, hnone rfl⟩

/-! ### Gaps that are not reported -/

/-- Behind the exclamation marks of a tidy line stands no punctuation. -/
theorem neverBefore_of_isTidy (hdisjoint : tables.IsDisjoint) (hfeed : '\n' ∉ line)
    (h : tables.IsTidy .spaceAfterExclamation line) :
  NeverBefore (tables.Lists .exclamations) (tables.Lists .punctuation) line
  := by
  intro c d hcd hc hd
  rw [← contains_iff_lists] at hc hd
  rcases isChain_iff_forall_adjacent.mp h c d hcd hc with hnoGap | rfl
  · obtain ⟨w, hw, hdw⟩ := Tables.contains_noGap_iff.mp hnoGap
    rw [← hdisjoint.eq_of_contains (t := .punctuation) hd hdw] at hw
    revert hw
    decide
  · apply hfeed (hcd.subset (by simp))

/-- If gaps are put in and neither numbers nor spaces at the end of a line are touched, all that
converting does to a clean line is to put in gaps, and it leaves the line as it is if and only if no
punctuation stands behind an exclamation mark.  So gaps in front of punctuation are put in without
being reported if punctuation behind exclamation marks is not reported. -/
theorem convertLine_of_clean (settings : Settings) (tables : Tables) (numerals : Numeral.Config)
    (number : Nat) (line : Text) (hfeed : '\n' ∉ line) (hdisjoint : tables.IsDisjoint)
    (hspace : (tables.charClass .spaces).contains fullWidthSpace = true)
    (hgap : settings .spaceAfterExclamation = true)
    (hnumerals : settings .arabicNumerals = false) (hend : settings .trailingSpaces = false)
    (hmap : tables.replaceMap.entries = [])
    (hclean : lintLine settings tables number line = []) :
  convertLine settings tables numerals line =
      .ok (Gap.fix (tables.entries .exclamations) [fullWidthSpace] tables.noGapBefore true line) ∧
    (convertLine settings tables numerals line = .ok line ↔
      NeverBefore (tables.Lists .exclamations) (tables.Lists .punctuation) line)
  := by
  rw [lintLine_eq_nil_iff] at hclean
  have htidy : ∀ t ∈ Toggle.ruleOrder, t ≠ .spaceAfterExclamation → settings t = true →
      tables.IsTidy t line := by
    intro t ht hne hon
    apply Tables.isTidy_of_report _ (fun h => absurd h hne) (hclean t ht hon)
    rintro rfl
    rw [hend] at hon
    cases hon
  have hconvert : convertLine settings tables numerals line =
      .ok (tables.rewrite .spaceAfterExclamation line) := by
    rw [convertLine_eq_applyRules hnumerals hmap,
      applyRules_of_isTidy_of_ne hdisjoint hspace hfeed hend (by decide) htidy, hgap]
    rfl
  use hconvert
  rw [hconvert, Except.ok.injEq]
  constructor
  · intro hsame
    apply neverBefore_of_isTidy hdisjoint hfeed
    rw [← hsame]
    apply Tables.isTidy_rewrite hdisjoint hspace hfeed
  · intro hnever
    apply Tables.rewrite_of_isTidy hfeed
    apply Tables.isTidy_of_report (by decide) _ (hclean _ (by decide) hgap)
    intro _
    exact apart_iff_neverBefore.mpr hnever

/-- A gap is put between an exclamation mark and a comma, and is not reported. -/
theorem convertLine_of_clean_comma :
  let settings := ((Settings.allOn.switch .punctuationAfterExclamation false).switch
    .arabicNumerals false).switch .trailingSpaces false
  lintLine settings .standard 1 ['\u3000', '！', '、'] = [] ∧
    convertLine settings .standard { } ['\u3000', '！', '、'] =
      .ok ['\u3000', '！', '\u3000', '、'] ∧
    ¬NeverBefore (Tables.standard.Lists .exclamations) (Tables.standard.Lists .punctuation)
      ['\u3000', '！', '、']
  := by
  intro settings
  have hclean : lintLine settings .standard 1 ['\u3000', '！', '、'] = [] := by decide
  obtain ⟨hconvert, hsame⟩ := convertLine_of_clean settings .standard { } 1 ['\u3000', '！', '、']
    (by decide) (by decide) rfl rfl rfl rfl rfl hclean
  use hclean, hconvert
  rw [← hsame, hconvert]
  decide

/-- Not every gap that is put into a line is reported. -/
theorem not_all_gaps_reported :
  ¬∀ (settings : Settings) (tables : Tables) (numerals : Numeral.Config) (number : Nat)
    (line : Text), '\r' ∉ line → '\n' ∉ line → tables.IsDisjoint →
    (tables.charClass .spaces).contains fullWidthSpace = true →
    settings .spaceAfterExclamation = true → settings .punctuationAfterExclamation = false →
    settings .arabicNumerals = false → settings .trailingSpaces = false →
    tables.replaceMap.entries = [] → lintLine settings tables number line = [] →
    convertLine settings tables numerals line = .ok line
  := by
  intro hall
  have hsame := hall
    (((Settings.allOn.switch .punctuationAfterExclamation false).switch
      .arabicNumerals false).switch .trailingSpaces false)
    .standard { } 1 ['\u3000', '！', '、'] (by decide) (by decide) (by decide) rfl rfl rfl rfl rfl rfl
    (by decide)
  revert hsame
  decide

end JapaneseProse
