import JapaneseProse.Proofs.Line.Changes

/-!
# Which characters may follow one another

Five rules are about neighbours: a line keeps such a rule if each of its characters may precede
the next (`mayPrecede`).  With tables that share no character (`IsDisjoint`), a small change made
by another rule leaves this as it is (`Change.isChain_mayPrecede`): the character that is dropped,
doubled or put in is of a table that the rule is not about, or its place is taken by one that the
rule treats alike.
-/

namespace JapaneseProse

/-! ### Tables without common characters -/

namespace Tables

/-- No character occurs in two tables. -/
def IsDisjoint (tables : Tables) : Prop :=
  Table.all.Pairwise fun t u =>
    ∀ c ∈ (tables.entries t).flatten, c ∉ (tables.entries u).flatten

instance (tables : Tables) : Decidable tables.IsDisjoint :=
  decidable_of_iff
    (Table.all.Pairwise fun t u =>
      ((tables.entries t).flatten.all fun c => c ∉ (tables.entries u).flatten) = true)
    (by simp only [IsDisjoint, List.all_eq_true, decide_eq_true_eq])

variable {tables : Tables}

theorem contains_charClass_iff {t : Table} {c : Char} :
  (tables.charClass t).contains c = true ↔ c ∈ (tables.entries t).flatten
  := by
  rw [charClass, CharClass.contains_ofEntries, List.mem_flatten]

/-- The table of a character is the only one in which it occurs. -/
theorem IsDisjoint.eq_of_contains (h : tables.IsDisjoint) {t u : Table} {c : Char}
    (ht : (tables.charClass t).contains c = true) (hu : (tables.charClass u).contains c = true) :
  t = u
  := by
  rw [contains_charClass_iff] at ht hu
  by_contra hne
  have hsymm : Std.Symm fun t u : Table =>
      ∀ c ∈ (tables.entries t).flatten, c ∉ (tables.entries u).flatten := by
    constructor
    intro t u h c hu ht
    apply h c ht hu
  apply List.Pairwise.forall h t.mem_all u.mem_all hne c ht hu

theorem IsDisjoint.not_contains (h : tables.IsDisjoint) {t u : Table} {c : Char}
    (ht : (tables.charClass t).contains c = true) (hne : t ≠ u) :
  ¬(tables.charClass u).contains c = true
  := by
  intro hu
  apply hne (h.eq_of_contains ht hu)

end Tables

/-! ### Small changes of a chain -/

section

variable {R : Char → Char → Prop} {u v : Text} {c d : Char}

theorem isChain_drop_behind (hnext : ∀ e, R c d → R d e → R c e)
    (h : (u ++ [c, d] ++ v).IsChain R) :
  (u ++ [c] ++ v).IsChain R
  := by
  rw [List.append_assoc] at h ⊢
  obtain ⟨hu, hcd, hv⟩ := List.isChain_append_cons_cons.mp h
  obtain ⟨hd, hv⟩ := List.isChain_cons.mp hv
  apply List.isChain_split.mpr
  use hu
  apply hv.cons
  intro e he
  apply hnext e hcd (hd e he)

theorem isChain_drop_before (hprevious : ∀ b, R b d → R d c → R b c)
    (h : (u ++ [d, c] ++ v).IsChain R) :
  (u ++ [c] ++ v).IsChain R
  := by
  rw [List.append_assoc] at h ⊢
  obtain ⟨hu, hdc, hv⟩ := List.isChain_append_cons_cons.mp h
  obtain ⟨hu, -, hd⟩ := List.isChain_append.mp hu
  apply List.IsChain.append hu hv
  intro b hb e he
  obtain rfl := Option.some.inj he
  apply hprevious b (hd b hb d rfl) hdc

theorem isChain_double (hself : R c c) (h : (u ++ [c] ++ v).IsChain R) :
  (u ++ [c, c] ++ v).IsChain R
  := by
  rw [List.append_assoc] at h ⊢
  obtain ⟨hu, hv⟩ := List.isChain_split.mp h
  apply List.isChain_append_cons_cons.mpr ⟨hu, hself, hv⟩

theorem isChain_insert {g : Char} (hcg : R c g) (hgd : R g d)
    (h : (u ++ [c, d] ++ v).IsChain R) :
  (u ++ [c, g, d] ++ v).IsChain R
  := by
  rw [List.append_assoc] at h ⊢
  obtain ⟨hu, -, hv⟩ := List.isChain_append_cons_cons.mp h
  apply List.isChain_append_cons_cons.mpr ⟨hu, hcg, _⟩
  apply List.isChain_cons_cons.mpr ⟨hgd, hv⟩

end

/-! ### Which character may precede which -/

/-- The table of the characters behind which the rule of a toggle forbids others. -/
def Toggle.watched? : Toggle → Option Table
  | .punctuationBeforeBracket | .repeatedPunctuation => some .punctuation
  | .punctuationAfterExclamation | .spaceAfterExclamation => some .exclamations
  | .repeatedCharacters => some .noRepeat
  | _ => none

/-- Whether the rule of a toggle forbids the characters of a table behind the watched ones. -/
def Toggle.forbids : Toggle → Table → Bool
  | .punctuationBeforeBracket, u => u = .rightBrackets
  | .repeatedPunctuation, u => u = .punctuation
  | .punctuationAfterExclamation, u => u = .punctuation
  | .spaceAfterExclamation, u => u ∉ [Table.exclamations, .rightBrackets, .spaces]
  | .repeatedCharacters, u => u = .noRepeat
  | _, _ => false

namespace Tables

/-- The first character may stand directly before the second as far as the rule of a toggle is
concerned. -/
def mayPrecede (tables : Tables) : Toggle → Char → Char → Prop
  | .punctuationBeforeBracket =>
      Neighbour.Apart (tables.charClass .punctuation) (tables.charClass .rightBrackets)
  | .repeatedPunctuation =>
      fun c d => ¬Repetition.Repeats (tables.charClass .punctuation) true c d
  | .punctuationAfterExclamation =>
      Neighbour.Apart (tables.charClass .exclamations) (tables.charClass .punctuation)
  | .spaceAfterExclamation => Gap.Fits (tables.entries .exclamations) tables.noGapBefore
  | .repeatedCharacters =>
      fun c d => ¬Repetition.Repeats (tables.charClass .noRepeat) false c d
  | _ => fun _ _ => True

variable {tables : Tables} {t : Toggle} {u : Table} {c d : Char}

/-- A character that the rule does not watch may precede any other. -/
theorem mayPrecede_of_not_watched (hc : ∀ w ∈ t.watched?, ¬(tables.charClass w).contains c = true)
    (d : Char) :
  tables.mayPrecede t c d
  := by
  cases t with
  | punctuationBeforeBracket => exact fun h => hc .punctuation rfl h.1
  | repeatedPunctuation => exact fun h => hc .punctuation rfl h.1
  | punctuationAfterExclamation => exact fun h => hc .exclamations rfl h.1
  | spaceAfterExclamation => exact fun h => absurd h (hc .exclamations rfl)
  | repeatedCharacters => exact fun h => hc .noRepeat rfl h.1
  | arabicNumerals | lineHeadSpace | doubleDash | doubleLeaders | trailingSpaces
  | halfWidthExclamation => trivial

theorem mayPrecede_of_contains (h : tables.IsDisjoint)
    (hc : (tables.charClass u).contains c = true) (hu : t.watched? ≠ some u) (d : Char) :
  tables.mayPrecede t c d
  := by
  apply mayPrecede_of_not_watched
  intro w hw
  apply h.not_contains hc
  rintro rfl
  apply hu hw

/-- No gap is put in front of a mark, a closing bracket or a space. -/
theorem contains_noGap_iff :
  (Gap.noGap (tables.entries .exclamations) tables.noGapBefore).contains d = true ↔
    ∃ w ∈ [Table.exclamations, .rightBrackets, .spaces], (tables.charClass w).contains d = true
  := by
  rw [Gap.contains_noGap_iff, noGapBefore, CharClass.contains_ofEntries_append]
  simp only [List.mem_cons, List.not_mem_nil, or_false, exists_eq_or_imp, exists_eq_left]
  rfl

/-- A character of a table that the rule does not forbid may follow any other. -/
theorem mayPrecede_of_not_forbidden (h : tables.IsDisjoint)
    (hd : (tables.charClass u).contains d = true) (hu : t.forbids u = false) (c : Char) :
  tables.mayPrecede t c d
  := by
  cases t with
  | punctuationBeforeBracket => exact fun hcd => h.not_contains hd (of_decide_eq_false hu) hcd.2
  | repeatedPunctuation =>
      exact fun hcd => h.not_contains hd (of_decide_eq_false hu) hcd.contains_second
  | punctuationAfterExclamation =>
      exact fun hcd => h.not_contains hd (of_decide_eq_false hu) hcd.2
  | spaceAfterExclamation =>
      intro _
      left
      apply contains_noGap_iff.mpr ⟨u, _, hd⟩
      apply Decidable.not_not.mp (of_decide_eq_false hu)
  | repeatedCharacters =>
      exact fun hcd => h.not_contains hd (of_decide_eq_false hu) hcd.contains_second
  | arabicNumerals | lineHeadSpace | doubleDash | doubleLeaders | trailingSpaces
  | halfWidthExclamation => trivial

/-! ### Small changes of other rules -/

/-- Two rules watch characters behind which another rule drops punctuation. -/
theorem watched?_of_dropsBehind? {t' : Toggle} {a b : Table}
    (ht' : t'.dropsBehind? = some (a, b)) (hwatched : t.watched? = some a) (hne : t ≠ t') :
  b = .punctuation ∧
    (t = .punctuationBeforeBracket ∨ (t = .spaceAfterExclamation ∧ a = .exclamations))
  := by
  revert hwatched hne
  cases t' <;> cases ht' <;> cases t <;> decide

/-- If a rule drops a character behind another, what follows may follow the one that stays as far
as another rule is concerned. -/
theorem mayPrecede_of_dropsBehind? {t' : Toggle} {a b : Table} {e : Char}
    (hdisjoint : tables.IsDisjoint) (ht' : t'.dropsBehind? = some (a, b)) (hne : t ≠ t')
    (hc : (tables.charClass a).contains c = true) (hd : (tables.charClass b).contains d = true)
    (hfeed : d ≠ '\n') (hcd : tables.mayPrecede t c d) (hde : tables.mayPrecede t d e) :
  tables.mayPrecede t c e
  := by
  by_cases hwatched : t.watched? = some a
  · obtain ⟨rfl, rfl | ⟨rfl, rfl⟩⟩ := watched?_of_dropsBehind? ht' hwatched hne
    · intro hce
      apply hde ⟨hd, hce.2⟩
    · -- Punctuation behind an exclamation mark asks for a gap, so there is none.
      rcases hcd hc with hnoGap | hd'
      · obtain ⟨w, hw, hdw⟩ := contains_noGap_iff.mp hnoGap
        rw [← hdisjoint.eq_of_contains hd hdw] at hw
        exact absurd hw (by decide)
      · exact absurd hd' hfeed
  · apply mayPrecede_of_contains hdisjoint hc hwatched

theorem watched?_ne_of_doubles? {t' : Toggle} {a : Table} (ht' : t'.doubles? = some a) :
  t.watched? ≠ some a
  := by
  cases t' <;> cases ht' <;> cases t <;> decide

/-- Small changes that other rules make leave the order of characters as it should be. -/
theorem Change.isChain_mayPrecede {t' : Toggle} {s s' : Text} (hdisjoint : tables.IsDisjoint)
    (hspace : (tables.charClass .spaces).contains fullWidthSpace = true)
    (h : tables.Change t' s s') (hne : t ≠ t') (hfeed : '\n' ∉ s)
    (hs : s.IsChain (tables.mayPrecede t)) :
  s'.IsChain (tables.mayPrecede t)
  := by
  cases h with
  | indent =>
      apply hs.cons
      intro d _
      apply mayPrecede_of_contains hdisjoint hspace
      cases t <;> decide
  | @dropBehind _ a b ht' u v c d hc hd =>
      apply isChain_drop_behind _ hs
      intro e hcd hde
      apply mayPrecede_of_dropsBehind? hdisjoint ht' hne hc hd _ hcd hde
      rintro rfl
      simp at hfeed
  | dropBefore u v hc hd =>
      apply isChain_drop_before _ hs
      intro b _ _
      apply mayPrecede_of_not_forbidden hdisjoint hc
      revert hne
      cases t <;> decide
  | double ht' u v hc =>
      apply isChain_double _ hs
      apply mayPrecede_of_contains hdisjoint hc (watched?_ne_of_doubles? ht')
  | insertGap u v d hc =>
      apply isChain_insert _ _ hs
      · apply mayPrecede_of_not_forbidden hdisjoint hspace
        cases t <;> decide
      · apply mayPrecede_of_contains hdisjoint hspace
        cases t <;> decide
  | trim h =>
      obtain ⟨w, rfl, -⟩ := h.exists_append hfeed
      apply hs.left_of_append

end Tables

end JapaneseProse
