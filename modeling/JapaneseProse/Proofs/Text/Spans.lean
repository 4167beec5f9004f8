import JapaneseProse.Finding
import JapaneseProse.Proofs.Text.Edits

/-!
# Spans of findings

A finding lies in a line if its span is not empty and holds the detected text there (`LiesIn`).
Spans of a line can be rewritten all at once: everything outside of them is copied, and the
columns are those of the line as given (`rewriteSpans`).

Findings that cover the matches of a line lie in the line, one behind the other
(`liesIn_ofMatch`, `pairwise_ofMatch`), and rewriting their spans replaces the matches
(`rewriteSpans_ofMatch`).
-/

namespace JapaneseProse

/-! ### Spans rewritten at once -/

/-- A line from a column on, with the spans of findings replaced by what `f` makes of the
detected texts. -/
def rewriteSpansFrom (f : Text → Text) (line : Text) : Nat → List Finding → Text
  | column, [] => line.drop column
  | column, x :: xs =>
      line.extract column x.columnBegin ++ f x.detected ++ rewriteSpansFrom f line x.columnEnd xs

/-- A line with the spans of findings replaced by what `f` makes of the detected texts. -/
def rewriteSpans (f : Text → Text) (findings : List Finding) (line : Text) : Text :=
  rewriteSpansFrom f line 0 findings

theorem extract_append_append (u t v : Text) :
  (u ++ t ++ v).extract u.length (u.length + t.length) = t
  := by
  rw [List.extract_eq_take_drop, Nat.add_sub_cancel_left, List.append_assoc, List.drop_left,
    List.take_left]

theorem rewriteSpansFrom_ofMatch (f : Text → Text) (number : Nat) (kind : Finding.Kind)
    {offset : Nat} {ms : List Match} {s : Text} (h : Placed offset ms s) (before : Text)
    (hbefore : before.length = offset) :
  rewriteSpansFrom f (before ++ s) offset (ms.map (Finding.ofMatch number kind)) =
    replaceMatches f offset ms s
  := by
  induction h generalizing before with
  | nil offset s =>
      subst hbefore
      apply List.drop_left
  | @cons offset skipped m ms rest hoffset _ ih =>
      subst hbefore
      have hcut : before ++ (skipped ++ m.text ++ rest) =
          before ++ skipped ++ m.text ++ rest := by
        simp only [List.append_assoc]
      have hskipped : (before ++ (skipped ++ m.text ++ rest)).extract before.length m.offset =
          skipped := by
        rw [hoffset, hcut, List.append_assoc _ m.text]
        apply extract_append_append
      have hend : (before ++ skipped ++ m.text).length = m.offset + m.text.length := by
        rw [List.length_append, List.length_append, hoffset]
      rw [List.map_cons, rewriteSpansFrom, replaceMatches_cons f skipped ms rest hoffset]
      congr 1
      · congr 1
      · rw [hcut]
        apply ih _ hend

/-- Rewriting the spans of findings that cover matches replaces the matches. -/
theorem rewriteSpans_ofMatch (f : Text → Text) (number : Nat) (kind : Finding.Kind)
    {ms : List Match} {line : Text} (h : Placed 0 ms line) :
  rewriteSpans f (ms.map (Finding.ofMatch number kind)) line = replaceMatches f 0 ms line
  := rewriteSpansFrom_ofMatch f number kind h [] rfl

/-! ### Findings in a line -/

namespace Finding

/-- The span of a finding is not empty, and in the line it holds the detected text. -/
structure LiesIn (x : Finding) (line : Text) : Prop where
  begin_lt_end : x.columnBegin < x.columnEnd
  end_le_length : x.columnEnd ≤ line.length
  extract_eq : line.extract x.columnBegin x.columnEnd = x.detected

/-- A finding that covers a match lies in the line of the match. -/
theorem liesIn_ofMatch {ms : List Match} {line : Text} (h : Placed 0 ms line) {m : Match}
    (hm : m ∈ ms) (hne : m.text ≠ []) (number : Nat) (kind : Kind) :
  (ofMatch number kind m).LiesIn line
  := by
  obtain ⟨u, v, rfl, hu⟩ := h.exists_append hm
  rw [Nat.zero_add] at hu
  constructor
  · apply Nat.lt_add_of_pos_right (List.length_pos_iff.mpr hne)
  · change m.offset + m.text.length ≤ _
    rw [hu, List.length_append, List.length_append]
    apply Nat.le_add_right
  · change List.extract _ m.offset (m.offset + m.text.length) = m.text
    rw [hu]
    apply extract_append_append

namespace LiesIn

variable {x : Finding} {s : Text}

theorem length_detected (h : x.LiesIn s) :
  x.detected.length = x.columnEnd - x.columnBegin
  := by
  have hlen := h.end_le_length
  rw [← h.extract_eq, List.extract_eq_take_drop, List.length_take, List.length_drop]
  omega

/-- The columns of a span hold the characters of the detected text. -/
theorem getElem?_eq (h : x.LiesIn s) {i : Nat} (hbegin : x.columnBegin ≤ i)
    (hend : i < x.columnEnd) :
  s[i]? = x.detected[i - x.columnBegin]?
  := by
  have hi : i - x.columnBegin < x.columnEnd - x.columnBegin := by omega
  rw [← h.extract_eq, List.extract_eq_take_drop, List.getElem?_take_of_lt hi, List.getElem?_drop,
    Nat.add_sub_cancel' hbegin]

theorem getElem?_last (h : x.LiesIn s) :
  s[x.columnEnd - 1]? = x.detected.getLast?
  := by
  have hlt := h.begin_lt_end
  rw [h.getElem?_eq (by omega) (by omega), List.getLast?_eq_getElem?, h.length_detected,
    Nat.sub_right_comm]

end LiesIn

/-- The findings that cover the matches of a line lie one behind the other. -/
theorem pairwise_ofMatch {ms : List Match} {line : Text} (h : Placed 0 ms line) (number : Nat)
    (kind : Kind) :
  (ms.map (ofMatch number kind)).Pairwise fun x y => x.columnEnd ≤ y.columnBegin
  := List.pairwise_map.mpr h.pairwise

end Finding

end JapaneseProse
