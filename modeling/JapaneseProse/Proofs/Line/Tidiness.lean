import JapaneseProse.Proofs.Line.Order

/-!
# Tidy lines

A line is tidy for a toggle if it keeps the rule of the toggle (`IsTidy`).  A rule leaves a tidy
line as it is (`rewrite_of_isTidy`), and it makes every line tidy (`isTidy_rewrite`).  Later rules
do not undo this, if the tables share no character: they leave a line that is tidy for another
toggle tidy (`Change.isTidy`).

* `isTidy_applyRules`: a line that went through the rules is tidy for every toggle that is on.
* `applyRules_of_isTidy`: such a line is not changed any more.
* `applyRules_of_isTidy_of_ne`: if one rule is missing, only this one changes the line.
-/

namespace JapaneseProse

variable {settings : Settings} {tables : Tables} {t t' : Toggle} {s s' : Text}

namespace Tables

/-- The line keeps the rule of a toggle. -/
def IsTidy (tables : Tables) (t : Toggle) (s : Text) : Prop :=
  match t with
  | .lineHeadSpace => LineHead.Indented (tables.entries .spaces) (tables.entries .leftBrackets) s
  | .doubleDash => Doubling.Paired (tables.charClass .dashes) s
  | .doubleLeaders => Doubling.Paired (tables.charClass .leaders) s
  | .trailingSpaces => LineEnd.Trimmed (tables.entries .spaces) s
  | t => s.IsChain (tables.mayPrecede t)

/-- A toggle without a rule on marks and spaces asks nothing of a line. -/
theorem isTidy_of_not_mem (ht : t ∉ Toggle.ruleOrder) (s : Text) :
  tables.IsTidy t s
  := by
  cases t with
  | arabicNumerals | halfWidthExclamation =>
      apply (List.pairwise_of_forall fun _ _ => trivial).isChain
  | _ => exact absurd (by decide) ht

/-! ### Tidy lines stay -/

/-- A rule leaves a tidy line as it is. -/
theorem rewrite_of_isTidy (hfeed : '\n' ∉ s) (h : tables.IsTidy t s) :
  tables.rewrite t s = s
  := by
  cases t with
  | arabicNumerals => rfl
  | lineHeadSpace => apply LineHead.fix_of_indented h
  | punctuationBeforeBracket => apply Neighbour.fixBefore_of_isChain h
  | doubleDash => apply Doubling.fix_of_paired h
  | doubleLeaders => apply Doubling.fix_of_paired h
  | repeatedPunctuation => apply Repetition.fix_of_isChain h
  | punctuationAfterExclamation => apply Neighbour.fixAfter_of_isChain h
  | spaceAfterExclamation => apply Gap.fix_of_isChain h
  | trailingSpaces => apply LineEnd.fix_of_trimmed hfeed h
  | repeatedCharacters => apply Repetition.fix_of_isChain h
  | halfWidthExclamation => rfl

/-! ### Small changes -/

/-- A change writes no line feed. -/
theorem Change.not_mem (h : tables.Change t s s') (hfeed : '\n' ∉ s) :
  '\n' ∉ s'
  := by
  intro hs'
  rcases h.mem hs' with hs | hspace
  · apply hfeed hs
  · exact absurd hspace (by decide)

theorem not_mem_rewrite (t : Toggle) (hfeed : '\n' ∉ s) :
  '\n' ∉ tables.rewrite t s
  := by
  apply rewrite_induction (motive := fun s => '\n' ∉ s) _ hfeed
  intro s s' hchange hfeed
  apply hchange.not_mem hfeed

/-- If the head stays, or the line becomes empty, the head is as it should be. -/
theorem indented_of_head? {spaces brackets : List Text} (h : ∀ c ∈ s'.head?, c ∈ s.head?)
    (hs : LineHead.Indented spaces brackets s) :
  LineHead.Indented spaces brackets s'
  := by
  intro c hc
  apply hs c (h c hc)

theorem head?_within (u : Text) (c : Char) (w w' v : Text) :
  ∀ d ∈ (u ++ (c :: w) ++ v).head?, d ∈ (u ++ (c :: w') ++ v).head?
  := by
  intro d hd
  cases u <;> exact hd

/-- Characters of the tables about which another rule is are no marks that are paired. -/
theorem doubles?_ne_of_dropsBehind? {a b : Table} (ht' : t'.dropsBehind? = some (a, b)) :
  t.doubles? ≠ some a ∧ t.doubles? ≠ some b
  := by
  cases t' <;> cases ht' <;> cases t <;> decide

theorem doubles?_ne_of_doubles? {a : Table} (ht' : t'.doubles? = some a) (hne : t ≠ t') :
  t.doubles? ≠ some a
  := by
  revert hne
  cases t' <;> cases ht' <;> cases t <;> decide

section

variable (hdisjoint : tables.IsDisjoint)
variable (hspace : (tables.charClass .spaces).contains fullWidthSpace = true)

include hdisjoint

/-- Small changes that other rules make leave the head of a line as it should be. -/
theorem Change.indented (h : tables.Change t' s s') (hne : t' ≠ .lineHeadSpace)
    (hfeed : '\n' ∉ s)
    (hs : LineHead.Indented (tables.entries .spaces) (tables.entries .leftBrackets) s) :
  LineHead.Indented (tables.entries .spaces) (tables.entries .leftBrackets) s'
  := by
  cases h with
  | indent => exact absurd rfl hne
  | dropBehind ht' u v hc hd =>
      apply indented_of_head? _ hs
      apply head?_within
  | dropBefore u v hc hd =>
      cases u with
      | nil =>
          -- Punctuation at the head of a line is no indent.
          rcases hs _ rfl with hspace | hbracket
          · exact absurd hspace (hdisjoint.not_contains (u := .spaces) hd (by decide))
          · exact absurd hbracket (hdisjoint.not_contains (u := .leftBrackets) hd (by decide))
      | cons b u =>
          apply indented_of_head? _ hs
          exact fun c hc => hc
  | double ht' u v hc =>
      apply indented_of_head? _ hs
      apply head?_within
  | insertGap u v d hc =>
      apply indented_of_head? _ hs
      apply head?_within
  | trim h =>
      obtain ⟨w, rfl, -⟩ := h.exists_append hfeed
      apply indented_of_head? _ hs
      intro c hc
      rw [List.head?_append, hc]
      rfl

include hspace

/-- Small changes that other rules make leave marks paired. -/
theorem Change.paired {k : Table} (h : tables.Change t' s s') (hk : t.doubles? = some k)
    (hne : t ≠ t') (hfeed : '\n' ∉ s)
    (hs : Doubling.Paired (tables.charClass k) s) :
  Doubling.Paired (tables.charClass k) s'
  := by
  have hother {w : Table} {c : Char} (hc : (tables.charClass w).contains c = true)
      (hw : t.doubles? ≠ some w) : ¬(tables.charClass k).contains c = true := by
    apply hdisjoint.not_contains hc
    rintro rfl
    apply hw hk
  cases h with
  | indent =>
      apply (Doubling.paired_cons_iff _).mpr hs
      apply hother hspace
      cases t <;> decide
  | dropBehind ht' u v hc hd =>
      obtain ⟨ha, hb⟩ := doubles?_ne_of_dropsBehind? (t := t) ht'
      apply hs.replace <;> simp [hother hc ha, hother hd hb]
  | dropBefore u v hc hd =>
      have hc := hother hc (by cases t <;> decide)
      have hd := hother hd (by cases t <;> decide)
      apply hs.replace <;> simp [hc, hd]
  | double ht' u v hc =>
      have hc := hother hc (doubles?_ne_of_doubles? ht' hne)
      apply hs.replace <;> simp [hc]
  | @insertGap u v c d hc =>
      have hc := hother hc (by cases t <;> decide)
      have hg := hother hspace (by cases t <;> decide)
      -- What follows the gap may be a mark, so only the exclamation mark gives way.
      have hs : Doubling.Paired (tables.charClass k) (u ++ [c] ++ d :: v) := by simpa using hs
      have hs' : Doubling.Paired (tables.charClass k) (u ++ [c, fullWidthSpace] ++ d :: v) := by
        apply hs.replace <;> simp [hc, hg]
      simpa using hs'
  | trim h =>
      obtain ⟨w, rfl, hw⟩ := h.exists_append hfeed
      cases w with
      | nil =>
          rw [List.append_nil] at hs
          exact hs
      | cons c w =>
          have hc := hother (hw c List.mem_cons_self) (by cases t <;> decide)
          apply ((Doubling.paired_append_cons_iff hc).mp hs).1

/-- Small changes that other rules make leave a line tidy, unless its end has to be tidy. -/
theorem Change.isTidy (h : tables.Change t' s s') (hne : t ≠ t') (hend : t ≠ .trailingSpaces)
    (hfeed : '\n' ∉ s) (hs : tables.IsTidy t s) :
  tables.IsTidy t s'
  := by
  cases t with
  | lineHeadSpace => apply h.indented hdisjoint hne.symm hfeed hs
  | doubleDash => apply h.paired (t := .doubleDash) hdisjoint hspace rfl hne hfeed hs
  | doubleLeaders => apply h.paired (t := .doubleLeaders) hdisjoint hspace rfl hne hfeed hs
  | trailingSpaces => exact absurd rfl hend
  | arabicNumerals | punctuationBeforeBracket | repeatedPunctuation | punctuationAfterExclamation
  | spaceAfterExclamation | repeatedCharacters | halfWidthExclamation =>
      apply h.isChain_mayPrecede hdisjoint hspace hne hfeed hs

/-! ### Rules make lines tidy -/

/-- A rule makes every line tidy. -/
theorem isTidy_rewrite (hfeed : '\n' ∉ s) (t : Toggle) :
  tables.IsTidy t (tables.rewrite t s)
  := by
  cases t with
  | arabicNumerals | halfWidthExclamation => apply isTidy_of_not_mem (by decide) s
  | lineHeadSpace => apply LineHead.indented_fix hspace _ s
  | punctuationBeforeBracket =>
      apply Neighbour.isChain_fixBefore
      intro c hc
      apply hdisjoint.not_contains (t := .rightBrackets) hc (by decide)
  | doubleDash => apply Doubling.paired_fix _ s
  | doubleLeaders => apply Doubling.paired_fix _ s
  | repeatedPunctuation => apply Repetition.isChain_fix _ _ s
  | punctuationAfterExclamation =>
      apply Neighbour.isChain_fixAfter
      intro c hc
      apply hdisjoint.not_contains (t := .exclamations) hc (by decide)
  | spaceAfterExclamation =>
      apply Gap.isChain_fix
      · apply CharClass.contains_ofEntries_append.mpr
        right
        exact hspace
      · apply hdisjoint.not_contains hspace (by decide)
  | trailingSpaces => apply LineEnd.trimmed_fix _ hfeed
  | repeatedCharacters => apply Repetition.isChain_fix _ _ s

/-- The rule of one toggle leaves a line that is tidy for another tidy. -/
theorem IsTidy.rewrite (hne : t ≠ t') (hend : t ≠ .trailingSpaces) (hfeed : '\n' ∉ s)
    (hs : tables.IsTidy t s) :
  '\n' ∉ tables.rewrite t' s ∧ tables.IsTidy t (tables.rewrite t' s)
  := by
  apply rewrite_induction (motive := fun s => '\n' ∉ s ∧ tables.IsTidy t s) _ ⟨hfeed, hs⟩
  rintro s s' hchange ⟨hfeed, hs⟩
  exact ⟨hchange.not_mem hfeed, hchange.isTidy hdisjoint hspace hne hend hfeed hs⟩

end

end Tables

/-! ### All rules -/

section

variable (hdisjoint : tables.IsDisjoint)
variable (hspace : (tables.charClass .spaces).contains fullWidthSpace = true)

include hdisjoint hspace

/-- A line that is tidy for a toggle stays so while other rules are applied. -/
theorem isTidy_foldl {order : List Toggle}
    (horder : ∀ u ∈ order, t ≠ u ∧ t ≠ .trailingSpaces) (hfeed : '\n' ∉ s)
    (hs : tables.IsTidy t s) :
  tables.IsTidy t (order.foldl (fun s u => applyIf (settings u) (tables.rewrite u) s) s)
  := by
  induction order generalizing s with
  | nil => exact hs
  | cons u order ih =>
      obtain ⟨⟨hne, hend⟩, horder⟩ := List.forall_mem_cons.mp horder
      rw [List.foldl_cons, applyIf]
      split
      · obtain ⟨hfeed, hs⟩ := hs.rewrite hdisjoint hspace hne hend hfeed
        apply ih horder hfeed hs
      · apply ih horder hfeed hs

/-- Rules that are applied one after another, spaces at the end last, leave a line tidy for each
of their toggles that is on. -/
theorem isTidy_foldl_of_mem {order : List Toggle}
    (horder : order.Pairwise fun t u => t ≠ u ∧ t ≠ .trailingSpaces) (ht : t ∈ order)
    (hon : settings t = true) (hfeed : '\n' ∉ s) :
  tables.IsTidy t (order.foldl (fun s u => applyIf (settings u) (tables.rewrite u) s) s)
  := by
  induction order generalizing s with
  | nil => exact absurd ht List.not_mem_nil
  | cons u order ih =>
      obtain ⟨hfirst, horder⟩ := List.pairwise_cons.mp horder
      rw [List.foldl_cons]
      rcases List.mem_cons.mp ht with rfl | ht
      · rw [applyIf, if_pos hon]
        apply isTidy_foldl hdisjoint hspace hfirst (Tables.not_mem_rewrite t hfeed)
        apply Tables.isTidy_rewrite hdisjoint hspace hfeed
      · apply ih horder ht
        rw [applyIf]
        split
        · apply Tables.not_mem_rewrite u hfeed
        · exact hfeed

/-- A line that went through the rules is tidy for every toggle that is on. -/
theorem isTidy_applyRules (hfeed : '\n' ∉ s) (hon : settings t = true) :
  tables.IsTidy t (applyRules settings tables s)
  := by
  by_cases ht : t ∈ Toggle.ruleOrder
  · rw [applyRules_eq_foldl]
    apply isTidy_foldl_of_mem hdisjoint hspace (by decide) ht hon hfeed
  · apply Tables.isTidy_of_not_mem ht

end

/-- Rules that are applied one after another leave a line as it is that is tidy for each of their
toggles that is on. -/
theorem foldl_of_isTidy {order : List Toggle} (hfeed : '\n' ∉ s)
    (h : ∀ t ∈ order, settings t = true → tables.IsTidy t s) :
  order.foldl (fun s u => applyIf (settings u) (tables.rewrite u) s) s = s
  := by
  induction order with
  | nil => rfl
  | cons t order ih =>
      obtain ⟨hfirst, h⟩ := List.forall_mem_cons.mp h
      rw [List.foldl_cons, applyIf]
      split
      · rename_i hon
        rw [tables.rewrite_of_isTidy hfeed (hfirst hon), ih h]
      · apply ih h

/-- A line that is tidy for every toggle that is on is not changed any more. -/
theorem applyRules_of_isTidy (hfeed : '\n' ∉ s)
    (h : ∀ t ∈ Toggle.ruleOrder, settings t = true → tables.IsTidy t s) :
  applyRules settings tables s = s
  := by
  rw [applyRules_eq_foldl]
  apply foldl_of_isTidy hfeed h

/-- A line that is tidy for every toggle that is on but one is changed by the rule of that one
only, as far as spaces at its end are left alone. -/
theorem applyRules_of_isTidy_of_ne (hdisjoint : tables.IsDisjoint)
    (hspace : (tables.charClass .spaces).contains fullWidthSpace = true) (hfeed : '\n' ∉ s)
    (hend : settings .trailingSpaces = false) (ht : t ∈ Toggle.ruleOrder)
    (h : ∀ u ∈ Toggle.ruleOrder, u ≠ t → settings u = true → tables.IsTidy u s) :
  applyRules settings tables s = applyIf (settings t) (tables.rewrite t) s
  := by
  rw [applyRules_eq_foldl]
  have hnodup : Toggle.ruleOrder.Nodup := by decide
  obtain ⟨before, behind, horder⟩ := List.append_of_mem ht
  rw [horder] at h hnodup ⊢
  rw [List.perm_middle.nodup_iff, List.nodup_cons] at hnodup
  have hne {u : Toggle} (hu : u ∈ before ++ behind) : u ≠ t := by
    rintro rfl
    apply hnodup.1 hu
  have hfirst : before.foldl (fun s u => applyIf (settings u) (tables.rewrite u) s) s = s := by
    apply foldl_of_isTidy hfeed
    intro u hu hon
    apply h u (by simp [hu]) (hne (List.mem_append_left behind hu)) hon
  rw [List.foldl_append, hfirst, List.foldl_cons, applyIf]
  split
  · apply foldl_of_isTidy (tables.not_mem_rewrite t hfeed)
    intro u hu hon
    have hne := hne (List.mem_append_right before hu)
    have htidy := h u (by simp [hu]) hne hon
    have hlast : u ≠ .trailingSpaces := by
      rintro rfl
      rw [hend] at hon
      cases hon
    apply (htidy.rewrite hdisjoint hspace hne hlast hfeed).2
  · apply foldl_of_isTidy hfeed
    intro u hu hon
    apply h u (by simp [hu]) (hne (List.mem_append_right before hu)) hon

end JapaneseProse
