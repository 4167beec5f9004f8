import JapaneseProse.Proofs.Line.Clean

/-!
# The style of a line

What the rules that report ask of a line can be said of its characters and their neighbours, with
no regard to how marks are searched for (`Tables.Asks`).  Nothing is reported of a line if and only
if each rule that is on gets what it asks (`lintLine_eq_nil_iff_asks`), also with tables that share
characters.
-/

namespace JapaneseProse

/-- No character of the first kind stands directly before one of the second. -/
def NeverBefore (P Q : Char → Prop) (line : Text) : Prop :=
  ∀ c d, [c, d] <:+: line → P c → ¬Q d

/-- Every character of a kind has one of the same kind directly before or behind it. -/
def InCompany (P : Char → Prop) (s : Text) : Prop :=
  ∀ (i : Nat) c, s[i]? = some c → P c →
    ∃ j d, (j + 1 = i ∨ j = i + 1) ∧ s[j]? = some d ∧ P d

namespace Tables

/-- A character occurs in an entry of a table. -/
def Lists (tables : Tables) (t : Table) (c : Char) : Prop := ∃ e ∈ tables.entries t, c ∈ e

/-- What the rule of a toggle asks of a line. -/
def Asks (tables : Tables) (t : Toggle) (line : Text) : Prop :=
  match t with
  | .lineHeadSpace => ∀ c ∈ line.head?, tables.Lists .spaces c ∨ tables.Lists .leftBrackets c
  | .punctuationBeforeBracket =>
      NeverBefore (tables.Lists .punctuation) (tables.Lists .rightBrackets) line
  | .doubleDash => InCompany (tables.Lists .dashes) line
  | .doubleLeaders => InCompany (tables.Lists .leaders) line
  | .repeatedPunctuation =>
      NeverBefore (tables.Lists .punctuation) (tables.Lists .punctuation) line
  | .punctuationAfterExclamation =>
      NeverBefore (tables.Lists .exclamations) (tables.Lists .punctuation) line
  | .spaceAfterExclamation =>
      NeverBefore (tables.Lists .exclamations)
        (fun d => d ≠ '\n' ∧
          ∀ u ∈ [Table.exclamations, .rightBrackets, .spaces, .punctuation], ¬tables.Lists u d)
        line
  | .repeatedCharacters => ∀ c, [c, c] <:+: line → ¬tables.Lists .noRepeat c
  | .arabicNumerals | .trailingSpaces | .halfWidthExclamation => True

end Tables

/-! ### Neighbours -/

theorem isChain_iff_forall_adjacent {R : Char → Char → Prop} {line : Text} :
  line.IsChain R ↔ ∀ c d, [c, d] <:+: line → R c d
  := by
  rw [List.isChain_iff_forall_rel_of_append_cons_cons]
  constructor
  · rintro h c d ⟨u, v, rfl⟩
    have hsplit : u ++ [c, d] ++ v = u ++ c :: d :: v := by simp
    apply h hsplit
  · rintro h c d u v rfl
    apply h c d
    exact ⟨u, v, by simp⟩

theorem isChain_iff_neverBefore {R : Char → Char → Prop} {P Q : Char → Prop}
    (h : ∀ c d, R c d ↔ (P c → ¬Q d)) {line : Text} :
  line.IsChain R ↔ NeverBefore P Q line
  := by
  rw [isChain_iff_forall_adjacent]
  simp only [h]
  rfl

theorem exists_append_of_getElem? {s : Text} {i : Nat} {c : Char} (h : s[i]? = some c) :
  ∃ u v, s = u ++ c :: v ∧ u.length = i
  := by
  obtain ⟨hi, rfl⟩ := List.getElem?_eq_some_iff.mp h
  use s.take i, s.drop (i + 1)
  rw [List.getElem_cons_drop, List.take_append_drop]
  exact ⟨rfl, List.length_take_of_le (Nat.le_of_lt hi)⟩

theorem paired_iff_inCompany {k : CharClass} {line : Text} :
  Doubling.Paired k line ↔ InCompany (fun c => k.contains c = true) line
  := by
  constructor
  · intro h i c hi hc
    obtain ⟨u, v, rfl, rfl⟩ := exists_append_of_getElem? hi
    rcases h u c v rfl hc with ⟨b, hb, hkb⟩ | ⟨d, hd, hkd⟩
    · obtain ⟨w, rfl⟩ := List.getLast?_eq_some_iff.mp hb
      exact ⟨w.length, b, .inl (by simp), by simp, hkb⟩
    · obtain ⟨w, rfl⟩ := List.head?_eq_some_iff.mp hd
      exact ⟨u.length + 1, d, .inr rfl, by simp, hkd⟩
  · rintro h u c v rfl hc
    obtain ⟨j, d, hj | rfl, hd, hkd⟩ := h u.length c (by simp) hc
    · left
      rw [List.getElem?_append_left (by omega)] at hd
      rw [List.getLast?_eq_getElem?, ← hj]
      exact ⟨d, hd, hkd⟩
    · right
      rw [List.getElem?_append_right (Nat.le_add_right _ 1), Nat.add_sub_cancel_left] at hd
      rw [List.head?_eq_getElem?]
      exact ⟨d, hd, hkd⟩

/-! ### What is reported -/

variable {settings : Settings} {tables : Tables} {t : Toggle} {line : Text}

theorem contains_iff_lists {u : Table} {c : Char} :
  (CharClass.ofEntries (tables.entries u)).contains c = true ↔ tables.Lists u c
  := CharClass.contains_ofEntries _ c

theorem apart_iff_neverBefore {u v : Table} :
  line.IsChain
      (Neighbour.Apart (.ofEntries (tables.entries u)) (.ofEntries (tables.entries v))) ↔
    NeverBefore (tables.Lists u) (tables.Lists v) line
  := by
  apply isChain_iff_neverBefore
  intro c d
  rw [Neighbour.Apart, contains_iff_lists, contains_iff_lists, not_and]

theorem paired_iff_lists {u : Table} :
  Doubling.Paired (.ofEntries (tables.entries u)) line ↔ InCompany (tables.Lists u) line
  := by
  rw [paired_iff_inCompany]
  simp only [contains_iff_lists]

/-- A rule reports nothing of a line if and only if it gets what it asks. -/
theorem report_eq_nil_iff (number : Nat) :
  tables.report t number line = [] ↔ tables.Asks t line
  := by
  cases t with
  | lineHeadSpace =>
      apply LineHead.lint_eq_nil_iff.trans
      simp only [LineHead.Indented, contains_iff_lists]
      rfl
  | punctuationBeforeBracket =>
      exact Neighbour.lintBefore_eq_nil_iff.trans apart_iff_neverBefore
  | doubleDash => exact Doubling.lint_eq_nil_iff.trans paired_iff_lists
  | doubleLeaders => exact Doubling.lint_eq_nil_iff.trans paired_iff_lists
  | repeatedPunctuation =>
      apply Repetition.lint_eq_nil_iff.trans
      apply isChain_iff_neverBefore
      intro c d
      rw [Repetition.Repeats, Repetition.echoes, if_pos rfl, contains_iff_lists,
        contains_iff_lists, not_and]
  | punctuationAfterExclamation =>
      exact Neighbour.lintAfter_eq_nil_iff.trans apart_iff_neverBefore
  | spaceAfterExclamation =>
      apply Gap.lint_eq_nil_iff.trans
      apply isChain_iff_neverBefore
      intro c d
      rw [Gap.Fits, Gap.contains_noGap_iff, Tables.noGapReportedBefore,
        CharClass.contains_ofEntries_append, CharClass.contains_ofEntries_append]
      simp only [contains_iff_lists, List.mem_cons, List.not_mem_nil, or_false, forall_eq_or_imp,
        forall_eq]
      tauto
  | repeatedCharacters =>
      apply Repetition.lint_eq_nil_iff.trans
      rw [isChain_iff_forall_adjacent]
      constructor
      · intro h c hc hlists
        apply h c c hc
        exact ⟨contains_iff_lists.mpr hlists, by simp [Repetition.echoes, CharClass.contains]⟩
      · rintro h c d hcd ⟨hc, hd⟩
        obtain rfl : d = c := by simpa [Repetition.echoes, CharClass.contains] using hd
        apply h d hcd (contains_iff_lists.mp hc)
  | arabicNumerals | trailingSpaces | halfWidthExclamation => exact iff_of_true rfl trivial

/-- Nothing is reported of a line if and only if each rule that is on gets what it asks of the
characters and their neighbours, whatever the tables are. -/
theorem lintLine_eq_nil_iff_asks (settings : Settings) (tables : Tables) (number : Nat)
    (line : Text) :
  lintLine settings tables number line = [] ↔
    ∀ t, settings t = true → tables.Asks t line
  := by
  rw [lintLine_eq_nil_iff]
  constructor
  · intro h t hon
    have ht : t ∈ Toggle.ruleOrder ∨ t = .arabicNumerals ∨ t = .halfWidthExclamation := by
      cases t <;> decide
    rcases ht with ht | rfl | rfl
    · apply (report_eq_nil_iff number).mp (h t ht hon)
    · trivial
    · trivial
  · intro h t _ hon
    apply (report_eq_nil_iff number).mpr (h t hon)

end JapaneseProse
