import JapaneseProse.Proofs.Rule.Gap.Places
import JapaneseProse.Proofs.Rule.Repetition
import JapaneseProse.Proofs.Text.Places

/-!
# Marks that repeat the one before

Of repetitions just those marks are dropped that repeat the character directly in front of them in
the line as given (`IsEcho`), however the repetitions touch.

* `isEcho_iff`: behind a mark and others that repeat it, all that repeats that mark is an echo.
* `fix_eq_dropWhere`: the marks that are dropped are the echoes.
* `dropWhere_dropWhere`: what drops copies first and then mixtures drops all mixtures.
* `fix_run_append`: so a maximal run is strictly reduced to its first mark, whatever comes before
  and behind it.
* `repetitions_reduced`: these are the marks that are missing from the line, nothing is repeated
  afterwards, and a second pass drops nothing.
-/

namespace JapaneseProse.Repetition

open Gap (IsMaximalRun)

variable {k : CharClass} {strict : Bool} {b c d : Char} {r s u u' v : Text}
variable {marks : List Text} {line : Text}

/-- The character repeats the mark directly in front of it. -/
def IsEcho (k : CharClass) (strict : Bool) (u : Text) (c : Char) (_v : Text) : Prop :=
  ∃ b ∈ u.getLast?, Repeats k strict b c

instance (k : CharClass) (strict : Bool) (b c : Char) : Decidable (Repeats k strict b c) :=
  inferInstanceAs (Decidable (_ ∧ _))

instance (k : CharClass) (strict : Bool) (u : Text) (c : Char) (v : Text) :
    Decidable (IsEcho k strict u c v) :=
  Option.decidableExistsMem u.getLast?

/-! ### Echoes -/

theorem repeats_false_iff :
  Repeats k false c d ↔ k.contains d = true ∧ c = d
  := by
  rw [Repeats, echoes, if_neg Bool.false_ne_true, contains_singleton, beq_iff_eq]
  constructor
  · rintro ⟨hc, rfl⟩
    exact ⟨hc, rfl⟩
  · rintro ⟨hc, rfl⟩
    exact ⟨hc, rfl⟩

theorem Repeats.mixed (h : Repeats k false c d) :
  Repeats k true c d
  := ⟨h.1, h.contains_second⟩

theorem contains_echoes_self (hc : k.contains c = true) :
  (echoes k strict c).contains c = true
  := by
  cases strict with
  | true => exact hc
  | false => rw [echoes, if_neg Bool.false_ne_true, contains_singleton, beq_self_eq_true]

/-- A mark that repeats another is repeated by the same marks. -/
theorem echoes_eq (h : (echoes k strict c).contains b = true) :
  echoes k strict b = echoes k strict c
  := by
  cases strict with
  | true => rfl
  | false =>
      rw [echoes, if_neg Bool.false_ne_true, contains_singleton, beq_iff_eq] at h
      rw [h]

/-- Behind a mark and others that repeat it, all that repeats that mark is an echo. -/
theorem isEcho_iff (hc : k.contains c = true)
    (hr : ∀ d ∈ r, (echoes k strict c).contains d = true) :
  IsEcho k strict (u ++ c :: r) d v ↔ (echoes k strict c).contains d = true
  := by
  have hne := List.cons_ne_nil c r
  have hlast : (u ++ c :: r).getLast? = some ((c :: r).getLast hne) := by
    rw [List.getLast?_append, List.getLast?_eq_some_getLast hne]
    rfl
  have hall : ∀ d ∈ c :: r, (echoes k strict c).contains d = true :=
    List.forall_mem_cons.mpr ⟨contains_echoes_self hc, hr⟩
  have hb := hall _ (List.getLast_mem hne)
  generalize (c :: r).getLast hne = b at hlast hb
  constructor
  · rintro ⟨b', hb', -, hd⟩
    obtain rfl := Option.mem_unique hlast hb'
    rw [← echoes_eq hb]
    exact hd
  · intro hd
    rw [← echoes_eq hb] at hd
    exact ⟨b, hlast, Repeats.contains_second ⟨hc, hb⟩, hd⟩

theorem isEcho_concat_iff :
  IsEcho k strict (u ++ [c]) d v ↔ Repeats k strict c d
  := by
  constructor
  · rintro ⟨b, hb, h⟩
    rw [List.getLast?_concat] at hb
    obtain rfl := Option.mem_some.mp hb
    exact h
  · intro h
    exact ⟨c, List.getLast?_concat, h⟩

/-- Directly behind a mark, those that repeat it are dropped. -/
theorem dropWhere_echoes_append (hc : k.contains c = true)
    (hr : ∀ d ∈ r, (echoes k strict c).contains d = true) (u s : Text) :
  dropWhere (IsEcho k strict) (u ++ [c]) (r ++ s) = dropWhere (IsEcho k strict) (u ++ c :: r) s
  := by
  rw [dropWhere_append_of_pos, List.append_assoc]
  · rfl
  · rintro r₁ d r₂ rfl
    obtain ⟨hr₁, hd⟩ := List.forall_mem_append.mp hr
    rw [List.append_assoc, List.singleton_append, isEcho_iff hc hr₁]
    apply hd d List.mem_cons_self

/-! ### The marks that are dropped -/

/-- A part of a line that does not begin with an echo loses the echoes in it. -/
theorem fix_eq_dropWhere_of_head?
    (h : ∀ c ∈ line.head?, ∀ v, ¬IsEcho (.ofEntries marks) strict u c v) :
  fix marks strict line = dropWhere (IsEcho (.ofEntries marks) strict) u line
  := by
  rw [fix_eq_rewrite, Pattern.rewrite]
  induction line using joinPieces_induction
      ((pattern (.ofEntries marks) strict).claim? (·.take 1)) generalizing u with
  | nil => rfl
  | kept c s hnone ih =>
      have hnext := length?_pattern_eq_none_iff.mp (Pattern.claim?_eq_none_iff.mp hnone)
      rw [dropWhere_cons_of_neg (h c rfl s), ih]
      intro d hd v hecho
      apply hnext d hd (isEcho_concat_iff.mp hecho)
  | taken c s n t hsome ih =>
      obtain ⟨hc, rfl, rfl⟩ := claim?_pattern_eq_some hsome
      have hr : ∀ d ∈ s.take (Pattern.runLength (echoes (.ofEntries marks) strict c) s),
          (echoes (.ofEntries marks) strict c).contains d = true :=
        fun d hd => Pattern.contains_of_mem_take (Nat.le_refl _) hd
      have hsplit := dropWhere_echoes_append hc hr u
        (s.drop (Pattern.runLength (echoes (.ofEntries marks) strict c) s))
      rw [List.take_append_drop] at hsplit
      rw [dropWhere_cons_of_neg (h c rfl s), hsplit, ← ih]
      · rfl
      · intro d hd v hecho
        apply Pattern.not_contains_of_mem_head?_drop hd ((isEcho_iff hc hr).mp hecho)

theorem not_isEcho_nil :
  ¬IsEcho k strict [] c v
  := by
  rintro ⟨b, ⟨⟩, -⟩

/-- The marks that are dropped are the echoes. -/
theorem fix_eq_dropWhere (marks : List Text) (strict : Bool) (line : Text) :
  fix marks strict line = dropWhere (IsEcho (.ofEntries marks) strict) [] line
  := fix_eq_dropWhere_of_head? fun _ _ _ => not_isEcho_nil

theorem isEcho_false_iff :
  IsEcho k false u c v ↔ k.contains c = true ∧ u.getLast? = some c
  := by
  constructor
  · rintro ⟨b, hb, hrepeats⟩
    obtain ⟨hc, rfl⟩ := repeats_false_iff.mp hrepeats
    exact ⟨hc, hb⟩
  · rintro ⟨hc, hlast⟩
    exact ⟨c, hlast, repeats_false_iff.mpr ⟨hc, rfl⟩⟩

/-! ### Mixtures of marks -/

theorem isEcho_congr (h : u.getLast? = u'.getLast?) (v v' : Text) :
  IsEcho k strict u c v ↔ IsEcho k strict u' c v'
  := by
  rw [IsEcho, IsEcho, h]

/-- What drops copies first and then mixtures drops all mixtures, for a copy that is missing stood
behind the same mark. -/
theorem dropWhere_dropWhere (h : u.getLast? = u'.getLast?) (s : Text) :
  dropWhere (IsEcho k true) u (dropWhere (IsEcho k false) u' s) = dropWhere (IsEcho k true) u' s
  := by
  induction s generalizing u u' with
  | nil => rfl
  | cons c s ih =>
      by_cases hcopy : IsEcho k false u' c s
      · obtain ⟨b, hb, hrepeats⟩ := hcopy
        obtain rfl := (repeats_false_iff.mp hrepeats).2
        rw [dropWhere_cons_of_pos ⟨b, hb, hrepeats⟩, dropWhere_cons_of_pos ⟨b, hb, hrepeats.mixed⟩]
        apply ih
        rw [h, List.getLast?_concat]
        exact hb
      · have hlast : (u ++ [c]).getLast? = (u' ++ [c]).getLast? := by
          rw [List.getLast?_concat, List.getLast?_concat]
        rw [dropWhere_cons_of_neg hcopy]
        by_cases hecho : IsEcho k true u' c s
        · rw [dropWhere_cons_of_pos hecho, dropWhere_cons_of_pos ((isEcho_congr h _ _).mpr hecho),
            ih hlast]
        · rw [dropWhere_cons_of_neg hecho,
            dropWhere_cons_of_neg fun hu => hecho ((isEcho_congr h _ _).mp hu), ih hlast]

/-- What stands behind a part of a line has no influence on the echoes in it. -/
theorem dropWhere_isEcho_append (u s t : Text) :
  dropWhere (IsEcho k strict) u (s ++ t) =
    dropWhere (IsEcho k strict) u s ++ dropWhere (IsEcho k strict) (u ++ s) t
  := rewriteEach_append _ u s t

/-- A maximal run is reduced to its first mark, and what stands before it and behind it is reduced
on its own. -/
theorem fix_run_append {before run behind : Text}
    (hrun : IsMaximalRun marks before run behind) :
  fix marks true (before ++ run ++ behind) =
    fix marks true before ++ run.take 1 ++ fix marks true behind
  := by
  obtain ⟨c, r, rfl⟩ := List.exists_cons_of_ne_nil hrun.ne_nil
  obtain ⟨hc, hr⟩ := List.forall_mem_cons.mp hrun.contains
  have hfirst : ∀ v, ¬IsEcho (.ofEntries marks) true before c v := by
    rintro v ⟨b, hb, hrepeats⟩
    apply hrun.not_contains_before b hb hrepeats.1
  have hbehind : fix marks true behind =
      dropWhere (IsEcho (.ofEntries marks) true) (before ++ c :: r) behind := by
    apply fix_eq_dropWhere_of_head?
    intro d hd v hecho
    apply hrun.not_contains_behind d hd ((isEcho_iff hc hr).mp hecho)
  rw [hbehind, fix_eq_dropWhere, fix_eq_dropWhere, List.append_assoc, dropWhere_isEcho_append,
    List.nil_append, List.cons_append, dropWhere_cons_of_neg (hfirst _),
    dropWhere_echoes_append hc hr, List.append_assoc]
  rfl

theorem fix_of_forall (h : ∀ c ∈ line, ¬(CharClass.ofEntries marks).contains c = true) :
  fix marks strict line = line
  := by
  apply fix_of_isChain
  apply List.isChain_iff_forall_rel_of_append_cons_cons.mpr
  rintro c d u v rfl hrepeats
  apply h c (by simp) hrepeats.1

/-- Strictly, every maximal run of marks gives way to its first mark, and what is no mark stays.
Otherwise the marks are dropped that are the same as the character directly in front of them in the
line as given.  Nothing is repeated afterwards, a second pass drops nothing, and it makes no
difference whether copies are dropped before mixtures are. -/
theorem repetitions_reduced (marks : List Text) :
  (∀ line, (∀ c ∈ line, ¬(CharClass.ofEntries marks).contains c = true) →
    fix marks true line = line) ∧
  (∀ before run behind, IsMaximalRun marks before run behind →
    fix marks true (before ++ run ++ behind) =
      fix marks true before ++ run.take 1 ++ fix marks true behind) ∧
  (∀ line, fix marks false line =
    dropWhere (fun u c _ => (CharClass.ofEntries marks).contains c = true ∧ u.getLast? = some c)
      [] line) ∧
  (∀ line, (fix marks true line).IsChain fun c d =>
    ¬((CharClass.ofEntries marks).contains c = true ∧
      (CharClass.ofEntries marks).contains d = true)) ∧
  (∀ line, (fix marks false line).IsChain fun c d =>
    ¬((CharClass.ofEntries marks).contains c = true ∧ d = c)) ∧
  (∀ strict line, fix marks strict (fix marks strict line) = fix marks strict line) ∧
  ∀ line, fix marks true (fix marks false line) = fix marks true line
  := by
  refine ⟨fun line => fix_of_forall, fun before run behind => fix_run_append, ?_,
    isChain_fix marks true, ?_, ?_, ?_⟩
  · intro line
    rw [fix_eq_dropWhere]
    apply dropWhere_congr
    exact fun u c v => isEcho_false_iff
  · intro line
    apply (isChain_fix marks false line).imp
    rintro c d hrepeats ⟨hc, rfl⟩
    apply hrepeats (repeats_false_iff.mpr ⟨hc, rfl⟩)
  · intro strict line
    apply fix_of_isChain (isChain_fix marks strict line)
  · intro line
    rw [fix_eq_dropWhere, fix_eq_dropWhere, fix_eq_dropWhere, dropWhere_dropWhere rfl]

/-- The run holds copies that touch, and others stand at both ends of the line. -/
theorem repetitions_reduced_touching :
  let marks : List Text := [['、', '。']]
  let before : Text := ['。', '。', 'あ']
  let run : Text := ['、', '、', '。', '。', '、']
  let behind : Text := ['い', '。', '、', '、']
  IsMaximalRun marks before run behind ∧
    (∀ c ∈ ['い', 'い'], ¬(CharClass.ofEntries marks).contains c = true) ∧
    fix marks true ['い', 'い'] = ['い', 'い'] ∧
    fix marks true (before ++ run ++ behind) = ['。', 'あ', '、', 'い', '。'] ∧
    fix marks false (before ++ run ++ behind) = ['。', 'あ', '、', '。', '、', 'い', '。', '、']
  := by
  intro marks before run behind
  have hrun : IsMaximalRun marks before run behind := by
    refine ⟨List.cons_ne_nil _ _, List.all_eq_true.mp rfl, ?_, ?_⟩
    · rintro c ⟨⟩
      decide
    · rintro c ⟨⟩
      decide
  have hplain : ∀ c ∈ ['い', 'い'], ¬(CharClass.ofEntries marks).contains c = true := by
    simp [marks, CharClass.contains, CharClass.ofEntries]
  obtain ⟨hlines, hruns, hcopies, -⟩ := repetitions_reduced marks
  refine ⟨hrun, hplain, hlines _ hplain, ?_, ?_⟩
  · rw [hruns _ _ _ hrun]
    decide
  · rw [hcopies]
    decide

end JapaneseProse.Repetition
