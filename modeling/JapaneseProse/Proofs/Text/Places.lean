import JapaneseProse.Text.Basic

/-!
# Characters in their places

A line can be rewritten character by character, where what is made of a character depends on
what stands before it and behind it in the line as given (`rewriteEach`).  So characters can be
dropped for their places (`dropWhere`).

* `rewriteEach_append`: the parts of a line are rewritten one after another, each in its place.
* `rewriteEach_append_of_forall`: a stretch in which the places make no difference is rewritten
  as a whole, and the rest of the line in its place.
-/

namespace JapaneseProse

/-- What `f` makes of the characters of a text, one after another.  Each is seen in its place,
with what stands before it in the line and behind it; `before` stands in front of the text. -/
def rewriteEach (f : Text → Char → Text → Text) (before : Text) : Text → Text
  | [] => []
  | c :: s => f before c s ++ rewriteEach f (before ++ [c]) s

/-- A text without the characters that stand in such places as `P` says; `before` stands in front
of the text. -/
def dropWhere (P : Text → Char → Text → Prop) [∀ u c v, Decidable (P u c v)] (before : Text) :
    Text → Text :=
  rewriteEach (fun u c v => if P u c v then [] else [c]) before

variable {f : Text → Char → Text → Text} {u s t : Text}

/-- The parts of a text are rewritten one after another, each in its place. -/
theorem rewriteEach_append (f : Text → Char → Text → Text) (u s t : Text) :
  rewriteEach f u (s ++ t) =
    rewriteEach (fun u c v => f u c (v ++ t)) u s ++ rewriteEach f (u ++ s) t
  := by
  induction s generalizing u with
  | nil => rw [List.append_nil, List.nil_append, rewriteEach, List.nil_append]
  | cons c s ih =>
      rw [List.cons_append, rewriteEach, ih, rewriteEach, List.append_assoc, List.append_assoc]
      rfl

/-- If the places make no difference, every character is rewritten on its own. -/
theorem rewriteEach_of_forall {g : Char → Text}
    (h : ∀ r c r', s = r ++ c :: r' → f (u ++ r) c r' = g c) :
  rewriteEach f u s = s.flatMap g
  := by
  induction s generalizing u with
  | nil => rfl
  | cons c s ih =>
      have hhead := h [] c s rfl
      rw [List.append_nil] at hhead
      rw [rewriteEach, hhead, List.flatMap_cons, ih]
      rintro r d r' rfl
      rw [List.append_assoc]
      apply h (c :: r) d r' rfl

/-- A stretch in which the places make no difference is rewritten as a whole. -/
theorem rewriteEach_append_of_forall {g : Char → Text}
    (h : ∀ r c r', s = r ++ c :: r' → f (u ++ r) c (r' ++ t) = g c) :
  rewriteEach f u (s ++ t) = s.flatMap g ++ rewriteEach f (u ++ s) t
  := by
  rw [rewriteEach_append, rewriteEach_of_forall h]

section

variable {P : Text → Char → Text → Prop} [∀ u c v, Decidable (P u c v)] {c : Char}

theorem dropWhere_cons_of_pos (h : P u c s) :
  dropWhere P u (c :: s) = dropWhere P (u ++ [c]) s
  := by
  rw [dropWhere, rewriteEach, if_pos h]
  rfl

theorem dropWhere_cons_of_neg (h : ¬P u c s) :
  dropWhere P u (c :: s) = c :: dropWhere P (u ++ [c]) s
  := by
  rw [dropWhere, rewriteEach, if_neg h]
  rfl

theorem dropWhere_congr {Q : Text → Char → Text → Prop} [∀ u c v, Decidable (Q u c v)]
    (h : ∀ u c v, P u c v ↔ Q u c v) (u s : Text) :
  dropWhere P u s = dropWhere Q u s
  := by
  induction s generalizing u with
  | nil => rfl
  | cons c s ih =>
      by_cases hc : P u c s
      · rw [dropWhere_cons_of_pos hc, dropWhere_cons_of_pos ((h u c s).mp hc), ih]
      · rw [dropWhere_cons_of_neg hc, dropWhere_cons_of_neg fun hq => hc ((h u c s).mpr hq), ih]

/-- A stretch in which every character is to be dropped is dropped. -/
theorem dropWhere_append_of_pos (h : ∀ r c r', s = r ++ c :: r' → P (u ++ r) c (r' ++ t)) :
  dropWhere P u (s ++ t) = dropWhere P (u ++ s) t
  := by
  have hdrop := rewriteEach_append_of_forall (f := fun u c v => if P u c v then [] else [c])
    (g := fun _ => []) (fun r c r' hs => if_pos (h r c r' hs))
  rw [List.flatMap_eq_nil_iff.mpr fun _ _ => rfl, List.nil_append] at hdrop
  exact hdrop

/-- A stretch in which no character is to be dropped stays. -/
theorem dropWhere_append_of_neg (h : ∀ r c r', s = r ++ c :: r' → ¬P (u ++ r) c (r' ++ t)) :
  dropWhere P u (s ++ t) = s ++ dropWhere P (u ++ s) t
  := by
  have hkeep := rewriteEach_append_of_forall (f := fun u c v => if P u c v then [] else [c])
    (g := fun c => [c]) (fun r c r' hs => if_neg (h r c r' hs))
  rw [List.flatMap_singleton'] at hkeep
  exact hkeep

end

end JapaneseProse
