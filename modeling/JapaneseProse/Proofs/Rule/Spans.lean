import JapaneseProse.Proofs.Rule.Doubling
import JapaneseProse.Proofs.Rule.Gap
import JapaneseProse.Proofs.Rule.Neighbour
import JapaneseProse.Proofs.Rule.Repetition

/-!
# Rules and the spans they report

A rule that edits a line makes its edits one after another, each in a line that the earlier ones
have already changed.  Still it rewrites just the spans that it reports of the line as given, and
all else is copied (`fix_eq_rewriteSpans_lint`).
-/

namespace JapaneseProse

theorem CharClass.contains_ofEntries_eq (entries : List Text) :
  (ofEntries entries).contains = fun c => decide (c ∈ entries.flatten)
  := by
  funext c
  rw [Bool.eq_iff_iff, contains_ofEntries, decide_eq_true_iff, List.mem_flatten]

/-- Whatever its tables, a rule rewrites the spans that it reports, and nothing else.  A mark that
stands alone is written twice; of a repetition the first mark stays; beside triggers the victims
are dropped, if the tables of triggers and victims share no character; and a gap is put in behind
the marks with which the span begins. -/
theorem fix_eq_rewriteSpans_lint (number : Nat) (line : Text) :
  (∀ marks : List Text,
    Doubling.fix marks line =
      rewriteSpans (fun t => t ++ t) (Doubling.lint marks number line) line) ∧
  (∀ (marks : List Text) (strict : Bool),
    Repetition.fix marks strict line =
      rewriteSpans (fun t => t.take 1) (Repetition.lint marks strict number line) line) ∧
  (∀ triggers victims : List Text, (∀ c ∈ triggers.flatten, c ∉ victims.flatten) →
    Neighbour.fixAfter triggers victims line =
        rewriteSpans (fun t => t.filter fun c => c ∉ victims.flatten)
          (Neighbour.lintAfter triggers victims number line) line ∧
      Neighbour.fixBefore triggers victims line =
        rewriteSpans (fun t => t.filter fun c => c ∉ victims.flatten)
          (Neighbour.lintBefore triggers victims number line) line) ∧
  (∀ (marks : List Text) (gap : Text) (excluded : List Text) (exceptAtEnd : Bool),
    Gap.fix marks gap excluded exceptAtEnd line =
      rewriteSpans
        (fun t => t.takeWhile (fun c => c ∈ marks.flatten) ++ gap ++
          t.dropWhile (fun c => c ∈ marks.flatten))
        (Gap.lint marks excluded exceptAtEnd number line) line)
  := by
  and_intros
  · intro marks
    apply Doubling.fix_eq_rewriteSpans
  · intro marks strict
    apply Repetition.fix_eq_rewriteSpans
  · intro triggers victims hdisjoint
    have hclasses : ∀ c, (CharClass.ofEntries triggers).contains c = true →
        ¬(CharClass.ofEntries victims).contains c = true := by
      simpa only [CharClass.contains_ofEntries_eq, decide_eq_true_iff] using hdisjoint
    constructor
    · apply Neighbour.fixAfter_eq_rewriteSpans hclasses
    · apply Neighbour.fixBefore_eq_rewriteSpans hclasses
  · intro marks gap excluded exceptAtEnd
    rw [← CharClass.contains_ofEntries_eq]
    apply Gap.fix_eq_rewriteSpans

/-- Victims stand on either side of triggers, which are listed in entries of several characters. -/
theorem fix_eq_rewriteSpans_lint_beside :
  let triggers : List Text := [['！', '？'], ['」']]
  let victims : List Text := [['、'], ['。']]
  let drop : Text → Text := fun t => t.filter fun c => c ∉ victims.flatten
  let line : Text := ['、', '！', '？', '、', '。', 'い', '。', '」', '」', '、', '…', '、']
  let after : Text := ['、', '！', '？', 'い', '。', '」', '」', '…', '、']
  let before : Text := ['！', '？', '、', '。', 'い', '」', '」', '、', '…', '、']
  (∀ c ∈ triggers.flatten, c ∉ victims.flatten) ∧
    Neighbour.fixAfter triggers victims line = after ∧
    rewriteSpans drop (Neighbour.lintAfter triggers victims 1 line) line = after ∧
    Neighbour.fixBefore triggers victims line = before ∧
    rewriteSpans drop (Neighbour.lintBefore triggers victims 1 line) line = before
  := by
  intro triggers victims drop line after before
  have hdisjoint : ∀ c ∈ triggers.flatten, c ∉ victims.flatten := by
    have hall : (triggers.flatten.all fun c => c ∉ victims.flatten) = true := by decide
    intro c hc
    apply of_decide_eq_true (List.all_eq_true.mp hall c hc)
  obtain ⟨-, -, hbeside, -⟩ := fix_eq_rewriteSpans_lint 1 line
  obtain ⟨hafter, hbefore⟩ := hbeside triggers victims hdisjoint
  have hfixAfter : Neighbour.fixAfter triggers victims line = after := by decide
  have hfixBefore : Neighbour.fixBefore triggers victims line = before := by decide
  exact ⟨hdisjoint, hfixAfter, hafter.symm.trans hfixAfter, hfixBefore,
    hbefore.symm.trans hfixBefore⟩

end JapaneseProse
