import JapaneseProse.Proofs.Rule.Gap

/-!
# Places of gaps

A gap belongs behind the last mark of a run if what stands behind the run asks for one
(`IsPlace`).  A line with a gap in each of these places, and with nothing else changed, is
`withGaps`; the line is gone through character by character, and only the next character counts.

* `withGaps_run_append`: a run of marks stays in one piece, and at most one gap comes behind it.
* `withGaps_append`: behind a character that is no mark, a line can be cut in two.
* `fix_eq_withGaps`: the gaps that are put in are just these.
* `fix_behind_runs`: so every maximal run gets its gap, wherever it stands, and nothing else does.
-/

namespace JapaneseProse.Gap

open Pattern (runLength)

variable {marks excluded : List Text} {gap : Text} {exceptAtEnd : Bool} {c : Char}
variable {next : Option Char} {r s u : Text}

/-- What stands behind a run is no excluded character.  If the end of the line does not count, it
is a character of the line. -/
def Asks (excluded : List Text) (exceptAtEnd : Bool) : Option Char → Prop
  | none => exceptAtEnd = false
  | some d => ¬(CharClass.ofEntries excluded).contains d = true ∧ (exceptAtEnd = true → d ≠ '\n')

instance (excluded : List Text) (exceptAtEnd : Bool) :
    (next : Option Char) → Decidable (Asks excluded exceptAtEnd next)
  | none => inferInstanceAs (Decidable (_ = _))
  | some _ => inferInstanceAs (Decidable (_ ∧ (_ → _)))

/-- The character is the last mark of a run, and what stands behind asks for a gap. -/
def IsPlace (marks excluded : List Text) (exceptAtEnd : Bool) (c : Char) (next : Option Char) :
    Prop :=
  (CharClass.ofEntries marks).contains c = true ∧
    (∀ d ∈ next, ¬(CharClass.ofEntries marks).contains d = true) ∧
      Asks excluded exceptAtEnd next

instance (marks excluded : List Text) (exceptAtEnd : Bool) (c : Char) (next : Option Char) :
    Decidable (IsPlace marks excluded exceptAtEnd c next) :=
  have : Decidable (∀ d ∈ next, ¬(CharClass.ofEntries marks).contains d = true) :=
    Option.decidableForallMem next
  inferInstanceAs (Decidable (_ ∧ _ ∧ _))

/-- The line with a gap in all places where one belongs. -/
def withGaps (marks : List Text) (gap : Text) (excluded : List Text) (exceptAtEnd : Bool) :
    Text → Text
  | [] => []
  | c :: s =>
      c :: (if IsPlace marks excluded exceptAtEnd c s.head? then gap else []) ++
        withGaps marks gap excluded exceptAtEnd s

/-- The run is not empty, consists of marks, and has no mark in front of it or behind it. -/
structure IsMaximalRun (marks : List Text) (before run behind : Text) : Prop where
  ne_nil : run ≠ []
  contains : ∀ c ∈ run, (CharClass.ofEntries marks).contains c = true
  not_contains_before : ∀ c ∈ before.getLast?, ¬(CharClass.ofEntries marks).contains c = true
  not_contains_behind : ∀ c ∈ behind.head?, ¬(CharClass.ofEntries marks).contains c = true

/-! ### Gaps and runs -/

/-- A run lacks a gap if it ends where it ends and what stands behind it asks for one. -/
theorem lacks_iff :
  Lacks marks excluded exceptAtEnd next ↔
    (∀ d ∈ next, ¬(CharClass.ofEntries marks).contains d = true) ∧ Asks excluded exceptAtEnd next
  := by
  cases next with
  | none => simp [Lacks, Asks]
  | some d => simp [Lacks, Asks, contains_noGap_iff, and_assoc]

theorem withGaps_cons_of_not_isPlace (h : ¬IsPlace marks excluded exceptAtEnd c s.head?) :
  withGaps marks gap excluded exceptAtEnd (c :: s) =
    c :: withGaps marks gap excluded exceptAtEnd s
  := by
  rw [withGaps, if_neg h]
  rfl

theorem withGaps_cons_of_not_contains (hc : ¬(CharClass.ofEntries marks).contains c = true)
    (s : Text) :
  withGaps marks gap excluded exceptAtEnd (c :: s) =
    c :: withGaps marks gap excluded exceptAtEnd s
  := withGaps_cons_of_not_isPlace fun h => hc h.1

/-- A run of marks stays in one piece. -/
theorem withGaps_run_append (hne : r ≠ [])
    (hr : ∀ c ∈ r, (CharClass.ofEntries marks).contains c = true)
    (hs : ∀ d ∈ s.head?, ¬(CharClass.ofEntries marks).contains d = true) :
  withGaps marks gap excluded exceptAtEnd (r ++ s) =
    r ++ (if Asks excluded exceptAtEnd s.head? then gap else []) ++
      withGaps marks gap excluded exceptAtEnd s
  := by
  induction r with
  | nil => exact absurd rfl hne
  | cons c r ih =>
      obtain ⟨hc, hr⟩ := List.forall_mem_cons.mp hr
      cases r with
      | nil =>
          have hplace : IsPlace marks excluded exceptAtEnd c s.head? ↔
              Asks excluded exceptAtEnd s.head? :=
            ⟨fun h => h.2.2, fun h => ⟨hc, hs, h⟩⟩
          rw [List.singleton_append, withGaps, if_congr hplace rfl rfl]
          rfl
      | cons d r =>
          -- The run goes on behind `c`.
          have hplace : ¬IsPlace marks excluded exceptAtEnd c (d :: (r ++ s)).head? :=
            fun h => h.2.1 d rfl (hr d List.mem_cons_self)
          rw [List.cons_append, List.cons_append, withGaps_cons_of_not_isPlace hplace,
            ← List.cons_append, ih (List.cons_ne_nil d r) hr]
          rfl

/-- What stands behind a character that is no mark has no influence on the gaps before. -/
theorem withGaps_append (hu : ∀ c ∈ u.getLast?, ¬(CharClass.ofEntries marks).contains c = true)
    (s : Text) :
  withGaps marks gap excluded exceptAtEnd (u ++ s) =
    withGaps marks gap excluded exceptAtEnd u ++ withGaps marks gap excluded exceptAtEnd s
  := by
  induction u with
  | nil => rfl
  | cons c u ih =>
      cases u with
      | nil =>
          have hc := hu c rfl
          rw [List.singleton_append, withGaps_cons_of_not_contains hc,
            withGaps_cons_of_not_contains hc]
          rfl
      | cons d u =>
          rw [List.getLast?_cons_cons] at hu
          rw [List.cons_append, withGaps, ih hu, withGaps, ← List.append_assoc]
          rfl

theorem withGaps_of_forall (hs : ∀ c ∈ s, ¬(CharClass.ofEntries marks).contains c = true) :
  withGaps marks gap excluded exceptAtEnd s = s
  := by
  induction s with
  | nil => rfl
  | cons c s ih =>
      obtain ⟨hc, hs⟩ := List.forall_mem_cons.mp hs
      rw [withGaps_cons_of_not_contains hc, ih hs]

/-! ### The gaps that are put in -/

/-- Where no gap is found missing, none belongs behind the first character. -/
theorem not_isPlace_of_length?_eq_none
    (h : (pattern marks excluded exceptAtEnd).length? (c :: s) = none) :
  ¬IsPlace marks excluded exceptAtEnd c s.head?
  := by
  rintro ⟨hc, hnext, hasks⟩
  have hrun : runLength (.ofEntries marks) (c :: s) = 1 := by
    rw [Pattern.runLength_cons_of_pos s hc, Pattern.runLength_eq_zero_iff.mpr hnext]
  have hlacks := length?_pattern_eq_none_iff.mp h
  rw [hrun] at hlacks
  apply hlacks Nat.one_pos
  apply lacks_iff.mpr ⟨hnext, hasks⟩

/-- Of what is behind a run, the characters that belong to the match stay. -/
theorem withGaps_take_tailLength
    (hs : ∀ d ∈ s.head?, ¬(CharClass.ofEntries marks).contains d = true) :
  withGaps marks gap excluded exceptAtEnd s =
    s.take (tailLength exceptAtEnd) ++
      withGaps marks gap excluded exceptAtEnd (s.drop (tailLength exceptAtEnd))
  := by
  cases exceptAtEnd with
  | false => rfl
  | true =>
      cases s with
      | nil => rfl
      | cons d s => apply withGaps_cons_of_not_contains (hs d rfl)

/-- In a match, the gap is put in behind the first `n` characters. -/
theorem withGap_take {n : Nat} (h : n + tailLength exceptAtEnd ≤ s.length) :
  withGap gap exceptAtEnd (s.take (n + tailLength exceptAtEnd)) =
    s.take n ++ gap ++ (s.drop n).take (tailLength exceptAtEnd)
  := by
  have hlen : (s.take (n + tailLength exceptAtEnd)).length - tailLength exceptAtEnd = n := by
    rw [List.length_take_of_le h, Nat.add_sub_cancel]
  rw [withGap, hlen, List.take_take, Nat.min_eq_left (Nat.le_add_right _ _), List.drop_take,
    Nat.add_sub_cancel_left]

/-- What is claimed is a run behind which a gap belongs, perhaps with the character behind the
run. -/
theorem withGaps_of_claim? {n : Nat} {t : Text}
    (h : (pattern marks excluded exceptAtEnd).claim? (withGap gap exceptAtEnd) c s = some (n, t)) :
  withGaps marks gap excluded exceptAtEnd (c :: s) =
    t ++ withGaps marks gap excluded exceptAtEnd (s.drop n)
  := by
  obtain ⟨m, hm, heq⟩ := Option.map_eq_some_iff.mp h
  have hle := Pattern.le_length_of_length? hm
  obtain ⟨rfl, hpos, hlacks⟩ := length?_pattern_eq_some hm
  obtain ⟨hnext, hasks⟩ := lacks_iff.mp hlacks
  obtain ⟨rfl, rfl⟩ := Prod.mk.inj heq
  generalize hk : runLength (.ofEntries marks) (c :: s) = k at *
  have hne : (c :: s).take k ≠ [] := by
    simpa using Nat.ne_of_gt hpos
  have hrun : ∀ d ∈ (c :: s).take k, (CharClass.ofEntries marks).contains d = true :=
    fun d hd => Pattern.contains_of_mem_take (Nat.le_of_eq hk.symm) hd
  have hrest : s.drop (k + tailLength exceptAtEnd - 1) =
      ((c :: s).drop k).drop (tailLength exceptAtEnd) := by
    obtain ⟨k, rfl⟩ := Nat.exists_eq_succ_of_ne_zero (Nat.ne_of_gt hpos)
    rw [List.drop_succ_cons, List.drop_drop]
    congr 1
    omega
  rw [withGap_take hle, hrest]
  conv_lhs => rw [← List.take_append_drop k (c :: s)]
  rw [withGaps_run_append hne hrun hnext, if_pos hasks, withGaps_take_tailLength hnext,
    List.append_assoc _ _ (withGaps _ _ _ _ _)]

theorem fix_eq_withGaps (marks : List Text) (gap : Text) (excluded : List Text)
    (exceptAtEnd : Bool) (line : Text) :
  fix marks gap excluded exceptAtEnd line = withGaps marks gap excluded exceptAtEnd line
  := by
  rw [fix_eq_rewrite, Pattern.rewrite]
  induction line using joinPieces_induction
      ((pattern marks excluded exceptAtEnd).claim? (withGap gap exceptAtEnd)) with
  | nil => rfl
  | kept c s h ih =>
      have hnone := Pattern.claim?_eq_none_iff.mp h
      rw [ih, withGaps_cons_of_not_isPlace (not_isPlace_of_length?_eq_none hnone)]
  | taken c s n t h ih => rw [ih, withGaps_of_claim? h]

/-- A gap is put in behind the last mark of every run behind which it is asked for, and nothing
else is changed.  In a line without marks nothing is changed, and a maximal run stays as it is and
gets its gap whatever comes before and behind it. -/
theorem fix_behind_runs (marks : List Text) (gap : Text) (excluded : List Text)
    (exceptAtEnd : Bool) :
  (∀ line, fix marks gap excluded exceptAtEnd line =
    withGaps marks gap excluded exceptAtEnd line) ∧
    (∀ line, (∀ c ∈ line, ¬(CharClass.ofEntries marks).contains c = true) →
      fix marks gap excluded exceptAtEnd line = line) ∧
    ∀ before run behind, IsMaximalRun marks before run behind →
      fix marks gap excluded exceptAtEnd (before ++ run ++ behind) =
        fix marks gap excluded exceptAtEnd before ++ run ++
          (if Asks excluded exceptAtEnd behind.head? then gap else []) ++
            fix marks gap excluded exceptAtEnd behind
  := by
  have hfix := fix_eq_withGaps marks gap excluded exceptAtEnd
  refine ⟨hfix, fun line hline => ?_, fun before run behind hrun => ?_⟩
  · rw [hfix, withGaps_of_forall hline]
  · rw [hfix, hfix, hfix, List.append_assoc, withGaps_append hrun.not_contains_before,
      withGaps_run_append hrun.ne_nil hrun.contains hrun.not_contains_behind]
    simp only [List.append_assoc]

/-- Two runs with one character between them; behind the second stands an excluded mark. -/
theorem fix_behind_runs_separated :
  IsMaximalRun [['！', '？']] ['ア', '？', 'イ'] ['！', '？'] ['ウ', '！', '」', '！'] ∧
    fix [['！', '？']] ['　', ' '] [['」'], ['！']] false
        (['ア', '？', 'イ'] ++ ['！', '？'] ++ ['ウ', '！', '」', '！']) =
      ['ア', '？', '　', ' ', 'イ', '！', '？', '　', ' ', 'ウ', '！', '」', '！', '　', ' ']
  := by
  have hrun : IsMaximalRun [['！', '？']] ['ア', '？', 'イ'] ['！', '？'] ['ウ', '！', '」', '！'] := by
    refine ⟨List.cons_ne_nil _ _, List.all_eq_true.mp rfl, ?_, ?_⟩
    · rintro c ⟨⟩
      decide
    · rintro c ⟨⟩
      decide
  obtain ⟨hfix, -, hruns⟩ := fix_behind_runs [['！', '？']] ['　', ' '] [['」'], ['！']] false
  have hline := hruns _ _ _ hrun
  rw [hfix ['ア', '？', 'イ'], hfix ['ウ', '！', '」', '！']] at hline
  exact ⟨hrun, hline⟩

end JapaneseProse.Gap
