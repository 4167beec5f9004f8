import JapaneseProse.Text.Pieces
import Mathlib.Data.List.Chain
import Mathlib.Logic.Relation

/-!
# Texts rewritten piece by piece

A rule rewrites a line from left to right: stretches that it claims give way to other
texts, and the characters in between stay.

* What holds of the empty text, and is carried over a kept character and over a claimed
  stretch, holds of a text and its rewriting (`joinPieces_induction`).
* A rewriting can also be reached by many small changes, each in some place of the line
  (`Reaches`), if this is so for the claimed stretches (`reaches_joinPieces`).  What no small
  change alters, such as a text seen through a filter, the rewriting does not alter.
-/

namespace JapaneseProse

/-! ### Rewritings -/

section

variable (take? : Char → Text → Option (Nat × Text))

theorem joinPieces_cons_of_none {c : Char} {s : Text} (h : take? c s = none) :
  joinPieces (pieces take? (c :: s)) = c :: joinPieces (pieces take? s)
  := by
  rw [pieces_cons_of_none take? h]
  rfl

theorem joinPieces_cons_of_some {c : Char} {s t : Text} {n : Nat} (h : take? c s = some (n, t)) :
  joinPieces (pieces take? (c :: s)) = t ++ joinPieces (pieces take? (s.drop n))
  := by
  rw [pieces_cons_of_some take? h]
  rfl

/-- A relation between texts and their rewritings, established piece by piece. -/
theorem joinPieces_induction {motive : Text → Text → Prop} (nil : motive [] [])
    (kept : ∀ c s, take? c s = none → motive s (joinPieces (pieces take? s)) →
      motive (c :: s) (c :: joinPieces (pieces take? s)))
    (taken : ∀ c s n t, take? c s = some (n, t) →
      motive (s.drop n) (joinPieces (pieces take? (s.drop n))) →
      motive (c :: s) (t ++ joinPieces (pieces take? (s.drop n))))
    (s : Text) :
  motive s (joinPieces (pieces take? s))
  := by
  induction hlen : s.length using Nat.strongRecOn generalizing s with
  | ind len ih =>
      cases s with
      | nil => exact nil
      | cons c s =>
          subst hlen
          cases h : take? c s with
          | none =>
              rw [joinPieces_cons_of_none take? h]
              apply kept c s h
              apply ih s.length (Nat.lt_succ_self _) s rfl
          | some claim =>
              obtain ⟨n, t⟩ := claim
              rw [joinPieces_cons_of_some take? h]
              apply taken c s n t h
              apply ih (s.drop n).length _ _ rfl
              rw [List.length_drop, List.length_cons]
              omega

/-- What holds of every character that is not claimed and of every claim holds of all pieces. -/
theorem forall_mem_pieces {α : Type} {claim? : Char → Text → Option (Nat × α)}
    {P : Piece α → Prop} {s : Text} (kept : ∀ c ∈ s, ∀ t, claim? c t = none → P (.kept c))
    (taken : ∀ c t n a, claim? c t = some (n, a) → P (.taken a)) :
  ∀ p ∈ pieces claim? s, P p
  := by
  induction hlen : s.length using Nat.strongRecOn generalizing s with
  | ind len ih =>
      cases s with
      | nil =>
          intro p hp
          exact absurd hp List.not_mem_nil
      | cons c s =>
          subst hlen
          cases h : claim? c s with
          | none =>
              rw [pieces_cons_of_none claim? h]
              apply List.forall_mem_cons.mpr ⟨kept c List.mem_cons_self s h, _⟩
              apply ih s.length (Nat.lt_succ_self _) _ rfl
              intro d hd
              apply kept d (List.mem_cons_of_mem c hd)
          | some claim =>
              obtain ⟨n, a⟩ := claim
              rw [pieces_cons_of_some claim? h]
              apply List.forall_mem_cons.mpr ⟨taken c s n a h, _⟩
              apply ih (s.drop n).length _ _ rfl
              · rw [List.length_drop, List.length_cons]
                omega
              · intro d hd
                apply kept d (List.mem_cons_of_mem c (List.mem_of_mem_drop hd))

/-- If no claim in `a` depends on what follows `a` or reaches into it, the pieces are those of the
parts. -/
theorem pieces_append {α : Type} {claim? : Char → Text → Option (Nat × α)} {a : Text} (b : Text)
    (hlocal : ∀ c s, c :: s <:+ a → claim? c (s ++ b) = claim? c s)
    (hinside : ∀ c s n v, claim? c s = some (n, v) → n ≤ s.length) :
  pieces claim? (a ++ b) = pieces claim? a ++ pieces claim? b
  := by
  induction hlen : a.length using Nat.strongRecOn generalizing a with
  | ind len ih =>
      cases a with
      | nil => rfl
      | cons c s =>
          subst hlen
          have hrest : ∀ n, pieces claim? (s.drop n ++ b) =
              pieces claim? (s.drop n) ++ pieces claim? b := by
            intro n
            apply ih (s.drop n).length _ _ rfl
            · rw [List.length_drop, List.length_cons]
              omega
            · intro d t ht
              apply hlocal d t
              apply ht.trans (List.IsSuffix.trans (List.drop_suffix n s) (List.suffix_cons c s))
          have hclaim := hlocal c s List.suffix_rfl
          rw [List.cons_append]
          cases h : claim? c s with
          | none =>
              rw [pieces_cons_of_none claim? (hclaim.trans h), pieces_cons_of_none claim? h]
              apply congrArg (List.cons _) (hrest 0)
          | some claim =>
              obtain ⟨n, v⟩ := claim
              rw [pieces_cons_of_some claim? (hclaim.trans h), pieces_cons_of_some claim? h,
                List.drop_append_of_le_length (hinside c s n v h), hrest n]
              rfl

/-- If every claimed stretch keeps its first character, so does the text. -/
theorem head?_joinPieces (hhead : ∀ c s n t, take? c s = some (n, t) → t.head? = some c)
    (s : Text) :
  (joinPieces (pieces take? s)).head? = s.head?
  := by
  cases s with
  | nil => rfl
  | cons c s =>
      cases h : take? c s with
      | none => rw [joinPieces_cons_of_none take? h, List.head?_cons, List.head?_cons]
      | some claim =>
          obtain ⟨n, t⟩ := claim
          rw [joinPieces_cons_of_some take? h, List.head?_append, hhead c s n t h]
          rfl

/-- Characters that follow one another in a rewriting are related, if this is so inside the
new stretches, at their ends and behind every kept character. -/
theorem isChain_joinPieces {R : Char → Char → Prop}
    (hkept : ∀ c s, take? c s = none → ∀ d ∈ (joinPieces (pieces take? s)).head?, R c d)
    (htaken : ∀ c s n t, take? c s = some (n, t) →
      t.IsChain R ∧
        ∀ a ∈ t.getLast?, ∀ d ∈ (joinPieces (pieces take? (s.drop n))).head?, R a d)
    (s : Text) :
  (joinPieces (pieces take? s)).IsChain R
  := by
  induction s using joinPieces_induction take? with
  | nil => exact List.isChain_nil
  | kept c s h ih => apply ih.cons (hkept c s h)
  | taken c s n t h ih =>
      obtain ⟨hinside, hend⟩ := htaken c s n t h
      apply List.IsChain.append hinside ih hend

end

/-! ### Small changes in a line -/

/-- One stretch of a line gives way to another. -/
inductive Within (r : Text → Text → Prop) : Text → Text → Prop where
  | intro (u v : Text) {s s' : Text} (h : r s s') : Within r (u ++ s ++ v) (u ++ s' ++ v)

/-- A line becomes another by changes made one after another. -/
abbrev Reaches (r : Text → Text → Prop) : Text → Text → Prop :=
  Relation.ReflTransGen (Within r)

namespace Reaches

variable {r : Text → Text → Prop} {s s' t t' : Text}

theorem of_change (h : r s s') :
  Reaches r s s'
  := by
  apply Relation.ReflTransGen.single
  simpa using Within.intro [] [] h

theorem append_left (w : Text) (h : Reaches r s s') :
  Reaches r (w ++ s) (w ++ s')
  := by
  induction h with
  | refl => exact Relation.ReflTransGen.refl
  | tail _ hstep ih =>
      obtain ⟨u, v, h⟩ := hstep
      apply ih.tail
      simpa using Within.intro (w ++ u) v h

theorem append_right (w : Text) (h : Reaches r s s') :
  Reaches r (s ++ w) (s' ++ w)
  := by
  induction h with
  | refl => exact Relation.ReflTransGen.refl
  | tail _ hstep ih =>
      obtain ⟨u, v, h⟩ := hstep
      apply ih.tail
      simpa using Within.intro u (v ++ w) h

theorem append (hs : Reaches r s s') (ht : Reaches r t t') :
  Reaches r (s ++ t) (s' ++ t')
  := by
  apply Relation.ReflTransGen.trans (hs.append_right t)
  apply ht.append_left s'

/-- Characters are dropped one by one behind another. -/
theorem drop_behind {c : Char} (u : Text) (h : ∀ d ∈ u, r [c, d] [c]) :
  Reaches r (c :: u) [c]
  := by
  induction u with
  | nil => exact Relation.ReflTransGen.refl
  | cons d u ih =>
      have hdrop : Reaches r ([c, d] ++ u) ([c] ++ u) := by
        apply Reaches.append_right
        apply Reaches.of_change (h d List.mem_cons_self)
      apply Relation.ReflTransGen.trans hdrop
      apply ih
      intro e he
      apply h e (List.mem_cons_of_mem d he)

/-- Characters are dropped one by one in front of another. -/
theorem drop_before {c : Char} (u : Text) (h : ∀ d ∈ u, r [d, c] [c]) :
  Reaches r (u ++ [c]) [c]
  := by
  induction u with
  | nil => exact Relation.ReflTransGen.refl
  | cons d u ih =>
      have hu : Reaches r (u ++ [c]) [c] := by
        apply ih
        intro e he
        apply h e (List.mem_cons_of_mem d he)
      apply Relation.ReflTransGen.trans (hu.append_left [d])
      apply Reaches.of_change (h d List.mem_cons_self)

end Reaches

/-- If every claimed stretch can be changed into its value, the text can be changed into its
rewriting. -/
theorem reaches_joinPieces (take? : Char → Text → Option (Nat × Text)) {r : Text → Text → Prop}
    (h : ∀ c s n t, take? c s = some (n, t) → Reaches r (c :: s.take n) t) (s : Text) :
  Reaches r s (joinPieces (pieces take? s))
  := by
  induction s using joinPieces_induction take? with
  | nil => exact Relation.ReflTransGen.refl
  | kept c s _ ih => apply ih.append_left [c]
  | taken c s n t htake ih =>
      have hsplit : c :: s = (c :: s.take n) ++ s.drop n := by
        rw [List.cons_append, List.take_append_drop]
      rw [hsplit]
      apply Reaches.append (h c s n t htake) ih

end JapaneseProse
