import JapaneseProse.Proofs.Text.Lines
import Mathlib.Data.List.Chain

/-!
# Lines written down

Lines can be written down in many ways: each is closed by a line end of its own, and the last one
may stay open.  Only a carriage return must not be followed by an empty line that a line feed
closes, for the two would be one line end (`IsClosed`), and an open line behind others must not be
empty, for it would not be seen (`IsWritten`).

* `splitAtLineEnds_writtenText`: behind closed lines, the rest of a text stays for itself.
* `IsWritten.splitLines_eq`: lines that are written down are read back.
* `exists_isWritten`: every text is some lines written down.
* `splitLines_flatten`: lines that are all closed by the same line end are read back.
-/

namespace JapaneseProse

/-- A line with what closes it. -/
structure WrittenLine where
  text : Text
  ending : Text
deriving DecidableEq, Repr

/-- Lines one behind the other, each with what closes it. -/
def writtenText (doc : List WrittenLine) : Text := doc.flatMap fun l => l.text ++ l.ending

/-- Written one behind the other, the two lines do not make one line end of their two. -/
def WrittenLine.StaysApart (l next : WrittenLine) : Prop :=
  ¬(l.ending = ['\r'] ∧ next.text = [] ∧ next.ending = ['\n'])

instance (l next : WrittenLine) : Decidable (l.StaysApart next) :=
  inferInstanceAs (Decidable (¬(_ ∧ _ ∧ _)))

/-- Every line is closed by a line end, and no two line ends become one. -/
structure IsClosed (doc : List WrittenLine) : Prop where
  isLine : ∀ l ∈ doc, IsLine l.text
  ending_mem : ∀ l ∈ doc, l.ending ∈ lineEnds
  isChain : doc.IsChain WrittenLine.StaysApart

/-- All lines are closed, or only the last one is open.  An open line is the only one or not
empty. -/
inductive IsWritten : List WrittenLine → Prop where
  | closed {doc : List WrittenLine} (h : IsClosed doc) (hne : doc ≠ []) : IsWritten doc
  | openLast {doc : List WrittenLine} {line : Text} (h : IsClosed doc) (hline : IsLine line)
      (hne : line ≠ [] ∨ doc = []) : IsWritten (doc ++ [⟨line, []⟩])

variable {doc : List WrittenLine} {l : WrittenLine} {line rest text : Text} {c : Char}

theorem writtenText_cons (l : WrittenLine) (doc : List WrittenLine) :
  writtenText (l :: doc) = l.text ++ l.ending ++ writtenText doc
  := rfl

theorem writtenText_concat (doc : List WrittenLine) (line : Text) :
  writtenText (doc ++ [⟨line, []⟩]) = writtenText doc ++ line
  := by
  simp [writtenText]

/-! ### Closed lines -/

theorem isClosed_nil :
  IsClosed []
  := ⟨by simp, by simp, .nil⟩

theorem isClosed_cons_iff :
  IsClosed (l :: doc) ↔
    (IsLine l.text ∧ l.ending ∈ lineEnds ∧ ∀ next ∈ doc.head?, l.StaysApart next) ∧ IsClosed doc
  := by
  constructor
  · rintro ⟨hline, hending, hchain⟩
    obtain ⟨hl, hline⟩ := List.forall_mem_cons.mp hline
    obtain ⟨hl', hending⟩ := List.forall_mem_cons.mp hending
    obtain ⟨hnext, hchain⟩ := List.isChain_cons.mp hchain
    exact ⟨⟨hl, hl', hnext⟩, hline, hending, hchain⟩
  · rintro ⟨⟨hl, hl', hnext⟩, hline, hending, hchain⟩
    exact ⟨List.forall_mem_cons.mpr ⟨hl, hline⟩, List.forall_mem_cons.mpr ⟨hl', hending⟩,
      List.isChain_cons.mpr ⟨hnext, hchain⟩⟩

theorem IsLine.head?_ne (h : IsLine line) :
  line.head? ≠ some '\n'
  := fun hhead => h.2 (List.mem_of_mem_head? hhead)

/-- Closed lines begin with a line feed only if the first one is empty and closed by it. -/
theorem IsClosed.head?_writtenText_append (h : IsClosed doc) (hrest : IsLine rest)
    (hhead : (writtenText doc ++ rest).head? = some '\n') :
  ∃ next ∈ doc.head?, next.text = [] ∧ next.ending = ['\n']
  := by
  cases doc with
  | nil => exact absurd hhead hrest.head?_ne
  | cons next doc =>
      obtain ⟨⟨hline, hending, -⟩, -⟩ := isClosed_cons_iff.mp h
      obtain ⟨text, ending⟩ := next
      use ⟨text, ending⟩, rfl
      cases text with
      | nil =>
          use rfl
          simp only [lineEnds, List.mem_cons, List.not_mem_nil, or_false] at hending
          rcases hending with rfl | rfl | rfl
          · rfl
          · cases hhead
          · cases hhead
      | cons c text => exact absurd hhead hline.head?_ne

/-- Behind closed lines, the rest of a text stays for itself. -/
theorem splitAtLineEnds_writtenText (h : IsClosed doc) (hrest : IsLine rest) :
  splitAtLineEnds (writtenText doc ++ rest) = doc.map WrittenLine.text ++ [rest]
  := by
  induction doc with
  | nil => apply splitAtLineEnds_of_isLine hrest
  | cons l doc ih =>
      obtain ⟨⟨hline, hending, hnext⟩, hdoc⟩ := isClosed_cons_iff.mp h
      rw [writtenText_cons, List.append_assoc, splitAtLineEnds_append hline hending, ih hdoc]
      · rfl
      · intro hreturn hhead
        obtain ⟨next, hmem, hempty, hfeed⟩ := hdoc.head?_writtenText_append hrest hhead
        apply hnext next hmem ⟨hreturn, hempty, hfeed⟩

/-- Lines that are all closed in the same way stay apart. -/
theorem isClosed_map {newline : Text} {lines : List Text} (hnewline : newline ∈ lineEnds)
    (hlines : ∀ l ∈ lines, IsLine l) :
  IsClosed (lines.map fun l => ⟨l, newline⟩)
  := by
  induction lines with
  | nil => exact isClosed_nil
  | cons line lines ih =>
      obtain ⟨hline, hlines⟩ := List.forall_mem_cons.mp hlines
      apply isClosed_cons_iff.mpr ⟨⟨hline, hnewline, ?_⟩, ih hlines⟩
      rintro next hnext ⟨rfl, -, hfeed⟩
      obtain ⟨l, -, rfl⟩ := List.mem_map.mp (List.mem_of_mem_head? hnext)
      cases hfeed

/-! ### Written lines are read back -/

theorem IsWritten.splitLines_eq (h : IsWritten doc) :
  splitLines (writtenText doc) = doc.map WrittenLine.text
  := by
  cases h with
  | closed h hne =>
      have hpieces := splitAtLineEnds_writtenText h isLine_nil
      rw [List.append_nil] at hpieces
      apply splitLines_of_concat hpieces
      apply mt List.map_eq_nil_iff.mp hne
  | @openLast doc line h hline hne =>
      have hpieces := splitAtLineEnds_writtenText h hline
      rw [writtenText_concat, List.map_append]
      rcases hne with hne | rfl
      · rw [splitLines_of_getLast?, hpieces]
        · rfl
        · rw [hpieces, List.getLast?_concat]
          rintro ⟨⟩
          apply hne rfl
      · -- The only piece is kept even if it is empty.
        change splitLines line = [line]
        have hpiece : splitAtLineEnds line = [line] := hpieces
        rw [splitLines, hpiece, if_neg]
        exact fun h => absurd h.1 (Nat.lt_irrefl 1)

/-- A character that ends no line goes to the first line, or to the rest if there are no lines. -/
theorem IsClosed.exists_cons (hdoc : IsClosed doc) (hrest : IsLine rest)
    (hc : c ≠ '\r' ∧ c ≠ '\n') :
  ∃ doc' rest', IsClosed doc' ∧ IsLine rest' ∧
    writtenText doc' ++ rest' = c :: (writtenText doc ++ rest)
  := by
  cases doc with
  | nil => exact ⟨[], c :: rest, hdoc, isLine_cons_iff.mpr ⟨hc, hrest⟩, rfl⟩
  | cons l doc =>
      obtain ⟨⟨hline, hending, hnext⟩, hdoc⟩ := isClosed_cons_iff.mp hdoc
      refine ⟨⟨c :: l.text, l.ending⟩ :: doc, rest, isClosed_cons_iff.mpr ⟨?_, hdoc⟩, hrest, rfl⟩
      exact ⟨isLine_cons_iff.mpr ⟨hc, hline⟩, hending, hnext⟩

/-- A text is closed lines and a rest without line ends. -/
theorem exists_isClosed (text : Text) :
  ∃ doc rest, IsClosed doc ∧ IsLine rest ∧ writtenText doc ++ rest = text
  := by
  fun_induction splitAtLineEnds text with
  | case1 => exact ⟨[], [], isClosed_nil, isLine_nil, rfl⟩
  | case2 s ih =>
      obtain ⟨doc, rest, hdoc, hrest, rfl⟩ := ih
      refine ⟨⟨[], ['\r', '\n']⟩ :: doc, rest, isClosed_cons_iff.mpr ⟨?_, hdoc⟩, hrest, rfl⟩
      exact ⟨isLine_nil, by decide, fun next _ h => by cases h.1⟩
  | case3 c s hcrlf hc ih =>
      obtain ⟨doc, rest, hdoc, hrest, rfl⟩ := ih
      refine ⟨⟨[], [c]⟩ :: doc, rest, isClosed_cons_iff.mpr ⟨⟨isLine_nil, ?_, ?_⟩, hdoc⟩, hrest,
        rfl⟩
      · rcases hc with rfl | rfl <;> decide
      · -- A line feed behind the carriage return would have been taken together with it.
        rintro next hnext ⟨hreturn, hempty, hfeed⟩
        obtain ⟨doc, rfl⟩ := List.head?_eq_some_iff.mp hnext
        apply hcrlf (writtenText doc ++ rest) (List.cons.inj hreturn).1
        rw [writtenText_cons, hempty, hfeed]
        rfl
  | case4 c s _ _ hs => exact absurd hs (splitAtLineEnds_ne_nil s)
  | case5 c s _ hc _ _ _ ih =>
      obtain ⟨doc, rest, hdoc, hrest, rfl⟩ := ih
      apply hdoc.exists_cons hrest (not_or.mp hc)

/-- Every text is some lines written down. -/
theorem exists_isWritten (text : Text) :
  ∃ doc, IsWritten doc ∧ writtenText doc = text
  := by
  obtain ⟨doc, rest, hdoc, hrest, rfl⟩ := exists_isClosed text
  by_cases h : rest ≠ [] ∨ doc = []
  · exact ⟨_, .openLast hdoc hrest h, writtenText_concat doc rest⟩
  · obtain ⟨hempty, hne⟩ := not_or.mp h
    obtain rfl := not_not.mp hempty
    exact ⟨doc, .closed hdoc hne, (List.append_nil _).symm⟩

/-- A text that is made of lines closed in the same way has these lines. -/
theorem splitLines_flatten {newline : Text} {lines : List Text} (hnewline : newline ∈ lineEnds)
    (hlines : ∀ l ∈ lines, IsLine l) (hne : lines ≠ []) :
  splitLines (lines.map (· ++ newline)).flatten = lines
  := by
  have hclosed := isClosed_map hnewline hlines
  have h := (IsWritten.closed hclosed (mt List.map_eq_nil_iff.mp hne)).splitLines_eq
  rw [writtenText, List.flatMap_map, List.map_map, List.flatMap_def] at h
  apply h.trans
  apply List.map_id

end JapaneseProse
