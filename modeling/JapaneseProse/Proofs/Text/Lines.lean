import JapaneseProse.Text.Lines
import Mathlib.Data.List.Basic
import Mathlib.Tactic.Use

/-!
# Lines of a text

No line of a text contains a line end (`isLine_of_mem_splitLines`), and there is at least one
line (`splitLines_ne_nil`).  A line that is closed by a line end is cut off
(`splitAtLineEnds_append`), except that a carriage return that is followed by a line feed is taken
for the other line end.

Behind a line end that is not cut in two, the lines of a text begin anew (`splitLines_append`).
-/

namespace JapaneseProse

variable {s line newline : Text} {lines : List Text} {c : Char}

/-- A text without line ends. -/
def IsLine (s : Text) : Prop := '\r' ∉ s ∧ '\n' ∉ s

instance (s : Text) : Decidable (IsLine s) := inferInstanceAs (Decidable (_ ∧ _))

/-- The texts that end a line. -/
def lineEnds : List Text := [['\n'], ['\r', '\n'], ['\r']]

theorem isLine_nil :
  IsLine []
  := ⟨List.not_mem_nil, List.not_mem_nil⟩

theorem isLine_cons_iff :
  IsLine (c :: s) ↔ (c ≠ '\r' ∧ c ≠ '\n') ∧ IsLine s
  := by
  simp only [IsLine, List.mem_cons, not_or, eq_comm (b := c), ne_eq]
  exact and_and_and_comm

theorem isLine_iff_forall :
  IsLine s ↔ ∀ c ∈ s, IsLine [c]
  := by
  induction s with
  | nil => exact iff_of_true isLine_nil fun _ hc => absurd hc List.not_mem_nil
  | cons c s ih =>
      rw [isLine_cons_iff, ih, List.forall_mem_cons, isLine_cons_iff]
      apply and_congr_left fun _ => (and_iff_left isLine_nil).symm

/-! ### Cutting at line ends -/

theorem splitAtLineEnds_ne_nil (s : Text) :
  splitAtLineEnds s ≠ []
  := by
  fun_cases splitAtLineEnds s <;> simp

theorem splitAtLineEnds_cons (hr : c ≠ '\r') (hn : c ≠ '\n') (s : Text) :
  splitAtLineEnds (c :: s) = (splitAtLineEnds s).modifyHead (c :: ·)
  := by
  rw [splitAtLineEnds, if_neg (not_or.mpr ⟨hr, hn⟩)]
  · cases h : splitAtLineEnds s with
    | nil => exact absurd h (splitAtLineEnds_ne_nil s)
    | cons line lines => rfl
  · intro s' hc _
    exact absurd hc hr

theorem splitAtLineEnds_of_isLine (h : IsLine line) :
  splitAtLineEnds line = [line]
  := by
  induction line with
  | nil => rfl
  | cons c line ih =>
      obtain ⟨⟨hr, hn⟩, hline⟩ := isLine_cons_iff.mp h
      rw [splitAtLineEnds_cons hr hn, ih hline]
      rfl

theorem isLine_of_mem_splitAtLineEnds (s : Text) :
  ∀ l ∈ splitAtLineEnds s, IsLine l
  := by
  fun_induction splitAtLineEnds s with
  | case1 =>
      intro l hl
      rw [List.mem_singleton.mp hl]
      exact isLine_nil
  | case2 s ih => apply List.forall_mem_cons.mpr ⟨isLine_nil, ih⟩
  | case3 c s _ _ ih => apply List.forall_mem_cons.mpr ⟨isLine_nil, ih⟩
  | case4 c s hcr hc hs ih => exact absurd hs (splitAtLineEnds_ne_nil s)
  | case5 c s hcr hc line lines hs ih =>
      rw [hs] at ih
      obtain ⟨hline, hlines⟩ := List.forall_mem_cons.mp ih
      apply List.forall_mem_cons.mpr ⟨isLine_cons_iff.mpr ⟨not_or.mp hc, hline⟩, hlines⟩

/-- A line that is closed is cut off. -/
theorem splitAtLineEnds_append (hline : IsLine line) (hnewline : newline ∈ lineEnds)
    (hs : newline = ['\r'] → s.head? ≠ some '\n') :
  splitAtLineEnds (line ++ newline ++ s) = line :: splitAtLineEnds s
  := by
  rw [List.append_assoc]
  induction line with
  | nil =>
      simp only [lineEnds, List.mem_cons, List.not_mem_nil, or_false] at hnewline
      rcases hnewline with rfl | rfl | rfl
      · rfl
      · rfl
      · cases s with
        | nil => rfl
        | cons d s =>
            have hd : d ≠ '\n' := by
              rintro rfl
              apply hs rfl rfl
            change splitAtLineEnds ('\r' :: d :: s) = _
            rw [splitAtLineEnds, if_pos (.inl rfl)]
            rintro s' - hs'
            injection hs' with hd'
            apply hd hd'
  | cons c line ih =>
      obtain ⟨⟨hr, hn⟩, hline⟩ := isLine_cons_iff.mp hline
      rw [List.cons_append, splitAtLineEnds_cons hr hn, ih hline]
      rfl

/-! ### The lines of a text -/

theorem isLine_of_mem_splitLines (s : Text) :
  ∀ l ∈ splitLines s, IsLine l
  := by
  intro l hl
  apply isLine_of_mem_splitAtLineEnds s
  rw [splitLines] at hl
  split at hl
  · apply List.dropLast_subset _ hl
  · exact hl

theorem splitLines_ne_nil (s : Text) :
  splitLines s ≠ []
  := by
  rw [splitLines]
  split
  · rename_i h
    apply List.ne_nil_of_length_pos
    rw [List.length_dropLast]
    omega
  · apply splitAtLineEnds_ne_nil s

/-- An empty piece behind the last line end is no line. -/
theorem splitLines_of_concat (hs : splitAtLineEnds s = lines ++ [[]]) (hne : lines ≠ []) :
  splitLines s = lines
  := by
  have hpos := List.length_pos_iff.mpr hne
  rw [splitLines, hs, if_pos, List.dropLast_concat]
  rw [List.length_append, List.getLast?_concat]
  exact ⟨Nat.succ_lt_succ hpos, rfl⟩

theorem splitLines_of_getLast? (hs : (splitAtLineEnds s).getLast? ≠ some []) :
  splitLines s = splitAtLineEnds s
  := if_neg fun h => hs h.2

/-! ### Texts put together -/

variable {a b : Text}

/-- The text ends in a line end. -/
def EndsLine (s : Text) : Prop := s.getLast? = some '\r' ∨ s.getLast? = some '\n'

/-- The first text ends in the carriage return of a line end whose line feed the second begins
with. -/
def CutsLineEnd (a b : Text) : Prop := a.getLast? = some '\r' ∧ b.head? = some '\n'

instance (s : Text) : Decidable (EndsLine s) := inferInstanceAs (Decidable (_ ∨ _))

instance (a b : Text) : Decidable (CutsLineEnd a b) := inferInstanceAs (Decidable (_ ∧ _))

theorem splitAtLineEnds_cons_of_lineEnd (hc : c = '\r' ∨ c = '\n')
    (hs : c = '\r' → s.head? ≠ some '\n') :
  splitAtLineEnds (c :: s) = [] :: splitAtLineEnds s
  := by
  rw [splitAtLineEnds, if_pos hc]
  rintro s' hr rfl
  apply hs hr rfl

/-- What a character makes of the pieces of the text behind it, which begins with `d`. -/
def putBefore (c d : Char) (lines : List Text) : List Text :=
  if c = '\r' ∧ d = '\n' then lines
  else if c = '\r' ∨ c = '\n' then [] :: lines
  else lines.modifyHead (c :: ·)

theorem splitAtLineEnds_cons_cons (c d : Char) (s : Text) :
  splitAtLineEnds (c :: d :: s) = putBefore c d (splitAtLineEnds (d :: s))
  := by
  rw [putBefore]
  split_ifs with hfeed hc
  · -- Together the two are one line end, and the line feed alone is one, too.
    obtain ⟨rfl, rfl⟩ := hfeed
    rfl
  · apply splitAtLineEnds_cons_of_lineEnd hc
    rintro hr hd
    apply hfeed ⟨hr, Option.some.inj hd⟩
  · apply splitAtLineEnds_cons (not_or.mp hc).1 (not_or.mp hc).2

theorem putBefore_ne_nil {d : Char} (hne : lines ≠ []) :
  putBefore c d lines ≠ []
  := by
  rw [putBefore]
  split_ifs
  · exact hne
  · apply List.cons_ne_nil
  · apply mt List.modifyHead_eq_nil_iff.mp hne

theorem putBefore_append {d : Char} (hne : lines ≠ []) (rest : List Text) :
  putBefore c d (lines ++ rest) = putBefore c d lines ++ rest
  := by
  obtain ⟨line, lines, rfl⟩ := List.exists_cons_of_ne_nil hne
  rw [putBefore, putBefore]
  split_ifs <;> rfl

/-- A text that ends in a line end is a row of closed lines, and what comes behind it is cut on its
own. -/
theorem exists_splitAtLineEnds (ha : EndsLine a) :
  ∃ lines, lines ≠ [] ∧ splitAtLineEnds a = lines ++ [[]] ∧
    ∀ b, ¬CutsLineEnd a b → splitAtLineEnds (a ++ b) = lines ++ splitAtLineEnds b
  := by
  induction a with
  | nil => exact absurd ha (by decide)
  | cons c s ih =>
      cases s with
      | nil =>
          have hc : c = '\r' ∨ c = '\n' := by simpa [EndsLine] using ha
          refine ⟨[[]], List.cons_ne_nil _ _, ?_, ?_⟩
          · apply splitAtLineEnds_cons_of_lineEnd hc
            simp
          · intro b hcut
            apply splitAtLineEnds_cons_of_lineEnd hc
            rintro rfl hb
            apply hcut ⟨rfl, hb⟩
      | cons d s =>
          have hlast : (c :: d :: s).getLast? = (d :: s).getLast? := List.getLast?_cons_cons
          rw [EndsLine, hlast] at ha
          obtain ⟨lines, hne, hs, happend⟩ := ih ha
          refine ⟨putBefore c d lines, putBefore_ne_nil hne, ?_, ?_⟩
          · rw [splitAtLineEnds_cons_cons, hs, putBefore_append hne]
          · intro b hcut
            rw [CutsLineEnd, hlast] at hcut
            rw [List.cons_append, List.cons_append, splitAtLineEnds_cons_cons, ← List.cons_append,
              happend b hcut, putBefore_append hne]

/-- Only the empty text has a single, empty piece. -/
theorem eq_nil_of_splitAtLineEnds (h : splitAtLineEnds b = [[]]) :
  b = []
  := by
  revert h
  fun_cases splitAtLineEnds b with
  | case1 => exact fun _ => rfl
  | case2 s => exact fun h => absurd (List.cons.inj h).2 (splitAtLineEnds_ne_nil s)
  | case3 c s => exact fun h => absurd (List.cons.inj h).2 (splitAtLineEnds_ne_nil s)
  | case4 c s => exact fun h => absurd (List.cons.inj h).1 (List.cons_ne_nil c [])
  | case5 c s _ _ line => exact fun h => absurd (List.cons.inj h).1 (List.cons_ne_nil c line)

/-- Behind a line end the lines of a text begin anew. -/
theorem splitLines_append (ha : EndsLine a) (hb : b ≠ []) (hcut : ¬CutsLineEnd a b) :
  splitLines (a ++ b) = splitLines a ++ splitLines b
  := by
  obtain ⟨lines, hne, hlines, happend⟩ := exists_splitAtLineEnds ha
  rw [splitLines_of_concat hlines hne]
  by_cases hlast : (splitAtLineEnds b).getLast? = some []
  · obtain ⟨rest, hrest⟩ := List.getLast?_eq_some_iff.mp hlast
    have hrest_ne : rest ≠ [] := by
      rintro rfl
      apply hb (eq_nil_of_splitAtLineEnds hrest)
    rw [splitLines_of_concat hrest hrest_ne]
    apply splitLines_of_concat
    · rw [happend b hcut, hrest, List.append_assoc]
    · apply List.append_ne_nil_of_left_ne_nil hne
  · rw [splitLines_of_getLast? hlast, splitLines_of_getLast?, happend b hcut]
    rwa [happend b hcut, List.getLast?_append_of_ne_nil _ (splitAtLineEnds_ne_nil b)]

end JapaneseProse
