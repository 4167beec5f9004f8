import JapaneseProse.Proofs.Text.Pieces
import JapaneseProse.Proofs.Text.Runs
import JapaneseProse.Text.Edit

/-!
# Edits at matches

The matches of a pattern lie in the line one after another (`Placed`).  So edits inside
them, which are made one after another with positions that are moved each time, come to the
same as replacing all matches at once (`applyAll_eq_replaceMatches`), and this is a rewriting
of the line piece by piece (`replaceMatches_matchesIn`).
-/

namespace JapaneseProse

/-- Matches that lie one after another in a text that begins at `offset`. -/
inductive Placed : Nat → List Match → Text → Prop where
  | nil (offset : Nat) (s : Text) : Placed offset [] s
  | cons {offset : Nat} (before : Text) {m : Match} {ms : List Match} {rest : Text}
      (hoffset : m.offset = offset + before.length)
      (h : Placed (m.offset + m.text.length) ms rest) :
      Placed offset (m :: ms) (before ++ m.text ++ rest)

namespace Placed

/-- Matches can begin later in the text. -/
theorem append_left {offset : Nat} (w : Text) {ms : List Match} {s : Text}
    (h : Placed (offset + w.length) ms s) :
  Placed offset ms (w ++ s)
  := by
  cases h with
  | nil => exact .nil offset _
  | @cons _ before m ms rest hoffset h =>
      rw [← List.append_assoc, ← List.append_assoc]
      apply Placed.cons (w ++ before) _ h
      rw [hoffset, List.length_append, Nat.add_assoc]

/-- A match can stand at the beginning of a text. -/
theorem head {offset n : Nat} {ms : List Match} {s : Text} (hn : n ≤ s.length)
    (h : Placed (offset + n) ms (s.drop n)) :
  Placed offset (⟨offset, s.take n⟩ :: ms) s
  := by
  have hplaced : Placed (offset + (s.take n).length) ms (s.drop n) := by
    rw [List.length_take_of_le hn]
    apply h
  have hcons := Placed.cons (m := ⟨offset, s.take n⟩) [] rfl hplaced
  simp only [List.nil_append, List.take_append_drop] at hcons
  apply hcons

theorem filter {offset : Nat} {ms : List Match} {s : Text} (h : Placed offset ms s)
    (q : Match → Bool) :
  Placed offset (ms.filter q) s
  := by
  induction h with
  | nil offset s => exact .nil offset s
  | @cons offset before m ms rest hoffset _ ih =>
      by_cases hq : q m = true
      · rw [List.filter_cons_of_pos hq]
        apply Placed.cons before hoffset ih
      · rw [List.filter_cons_of_neg hq]
        apply Placed.append_left
        rw [List.length_append, ← Nat.add_assoc, ← hoffset]
        apply ih

/-- Every match stands somewhere in the text. -/
theorem exists_append {offset : Nat} {ms : List Match} {s : Text} (h : Placed offset ms s)
    {m : Match} (hm : m ∈ ms) :
  ∃ u v, s = u ++ m.text ++ v ∧ m.offset = offset + u.length
  := by
  induction h with
  | nil offset s => exact absurd hm List.not_mem_nil
  | @cons offset before m' ms rest hoffset _ ih =>
      rcases List.mem_cons.mp hm with rfl | hm
      · exact ⟨before, rest, rfl, hoffset⟩
      · obtain ⟨u, v, rfl, hu⟩ := ih hm
        use before ++ m'.text ++ u, v
        constructor
        · simp only [List.append_assoc]
        · rw [hu, hoffset, List.length_append, List.length_append]
          omega

/-- Every match begins where those before it have ended, or later. -/
theorem pairwise {offset : Nat} {ms : List Match} {s : Text} (h : Placed offset ms s) :
  ms.Pairwise fun a b => a.offset + a.text.length ≤ b.offset
  := by
  induction h with
  | nil offset s => exact .nil
  | @cons offset before m ms rest hoffset h ih =>
      apply List.Pairwise.cons _ ih
      intro b hb
      obtain ⟨u, v, -, hu⟩ := h.exists_append hb
      rw [hu]
      apply Nat.le_add_right

end Placed

namespace Pattern

/-! ### The places of matches -/

theorem placed_matchesFrom {p : Pattern} (hp : p.Consuming) (offset : Nat) (s : Text) :
  Placed offset (p.matchesFrom offset 0 s) s
  := by
  induction offset, s using matchesFrom_induction hp with
  | nil offset => exact .nil offset []
  | fails offset c s _ ih => apply ih.append_left [c]
  | found offset c s n h ih =>
      apply Placed.head (n := n + 1) (s := c :: s) (le_length_of_length? h) ih

/-- The matches of a pattern lie in the line one after another. -/
theorem placed_matchesIn {p : Pattern} (hp : p.Consuming) (line : Text) :
  Placed 0 (p.matchesIn line) line
  := by
  rw [matchesIn_eq]
  apply placed_matchesFrom hp

/-- What holds of every text that the pattern takes holds of the texts of all matches. -/
theorem forall_mem_matchesFrom {p : Pattern} (hp : p.Consuming) {P : Text → Prop}
    (h : ∀ c s n, p.length? (c :: s) = some (n + 1) → P (c :: s.take n)) (offset : Nat)
    (s : Text) :
  ∀ m ∈ p.matchesFrom offset 0 s, P m.text
  := by
  induction offset, s using matchesFrom_induction hp with
  | nil offset =>
      intro m hm
      exact absurd hm List.not_mem_nil
  | fails offset c s _ ih => exact ih
  | found offset c s n hn ih =>
      rw [List.forall_mem_cons]
      exact ⟨h c s n hn, ih⟩

theorem forall_mem_matchesIn {p : Pattern} (hp : p.Consuming) {P : Text → Prop}
    (h : ∀ c s n, p.length? (c :: s) = some (n + 1) → P (c :: s.take n)) (line : Text) :
  ∀ m ∈ p.matchesIn line, P m.text
  := by
  rw [matchesIn_eq]
  apply forall_mem_matchesFrom hp h

theorem text_ne_nil_of_mem_matchesIn {p : Pattern} (hp : p.Consuming) (line : Text) :
  ∀ m ∈ p.matchesIn line, m.text ≠ []
  := by
  apply forall_mem_matchesIn (P := (· ≠ [])) hp
  intro c s n _
  apply List.cons_ne_nil

end Pattern

/-! ### Matches replaced -/

/-- The text, which begins at `offset`, with the text of every match replaced. -/
def replaceMatches (f : Text → Text) (offset : Nat) : List Match → Text → Text
  | [], s => s
  | m :: ms, s =>
      let skipped := m.offset - offset
      s.take skipped ++ f m.text ++
        replaceMatches f (m.offset + m.text.length) ms (s.drop (skipped + m.text.length))

theorem replaceMatches_cons (f : Text → Text) {offset : Nat} (before : Text) {m : Match}
    (ms : List Match) (rest : Text) (hoffset : m.offset = offset + before.length) :
  replaceMatches f offset (m :: ms) (before ++ m.text ++ rest) =
    before ++ f m.text ++ replaceMatches f (m.offset + m.text.length) ms rest
  := by
  have hskip : m.offset - offset = before.length := by omega
  have htake : (before ++ m.text ++ rest).take before.length = before := by
    rw [List.append_assoc, List.take_left]
  have hdrop : (before ++ m.text ++ rest).drop (before.length + m.text.length) = rest := by
    rw [← List.length_append, List.drop_left]
  rw [replaceMatches, hskip, htake, hdrop]

/-- What stands before all matches stays. -/
theorem replaceMatches_append_left (f : Text → Text) {offset : Nat} (w : Text) {ms : List Match}
    {s : Text} (h : Placed (offset + w.length) ms s) :
  replaceMatches f offset ms (w ++ s) = w ++ replaceMatches f (offset + w.length) ms s
  := by
  cases h with
  | nil => rfl
  | @cons _ before m ms rest hoffset h =>
      have hoffset' : m.offset = offset + (w ++ before).length := by
        rw [hoffset, List.length_append, Nat.add_assoc]
      have hassoc : w ++ (before ++ m.text ++ rest) = (w ++ before) ++ m.text ++ rest := by simp
      rw [replaceMatches_cons f before ms rest hoffset, hassoc,
        replaceMatches_cons f (w ++ before) ms rest hoffset']
      simp

/-- A match that is left out is one whose text stays. -/
theorem replaceMatches_filter (f : Text → Text) (q : Text → Bool) {offset : Nat}
    {ms : List Match} {s : Text} (h : Placed offset ms s) :
  replaceMatches f offset (ms.filter fun m => q m.text) s =
    replaceMatches (fun t => if q t then f t else t) offset ms s
  := by
  induction h with
  | nil offset s => rfl
  | @cons offset before m ms rest hoffset h ih =>
      rw [replaceMatches_cons _ _ _ _ hoffset]
      by_cases hq : q m.text = true
      · rw [List.filter_cons_of_pos (p := fun m : Match => q m.text) hq,
          replaceMatches_cons _ _ _ _ hoffset, if_pos hq, ih]
      · have hend : offset + (before ++ m.text).length = m.offset + m.text.length := by
          rw [List.length_append, hoffset, Nat.add_assoc]
        have hplaced := h.filter fun m => q m.text
        rw [← hend] at hplaced
        rw [List.filter_cons_of_neg (p := fun m : Match => q m.text) hq,
          replaceMatches_append_left f _ hplaced, hend, if_neg hq, ih]

/-- What is made of the matches counts, and nothing else. -/
theorem replaceMatches_congr {f g : Text → Text} {ms : List Match}
    (h : ∀ m ∈ ms, f m.text = g m.text) (offset : Nat) (s : Text) :
  replaceMatches f offset ms s = replaceMatches g offset ms s
  := by
  induction ms generalizing offset s with
  | nil => rfl
  | cons m ms ih =>
      obtain ⟨hm, hms⟩ := List.forall_mem_cons.mp h
      rw [replaceMatches, replaceMatches, hm, ih hms]

/-! ### Edits one after another -/

/-- A line with a text put in before the character at `i`. -/
def insertAt (i : Nat) (t line : Text) : Text := line.take i ++ t ++ line.drop i

/-- If a text of length `n` is put in at every match, the `i`-th is put in `n * i` columns further
on. -/
theorem Edit.applyShifted_inserts (start : Match → Nat) {text : Match → Text} {n : Nat}
    {ms : List Match} (h : ∀ m ∈ ms, (text m).length = n) (i : Nat) (line : Text) :
  applyShifted (n * i) 0 (ms.map fun m => ⟨start m, 0, text m⟩) line =
    (ms.zipIdx i).foldl (fun line p => insertAt (start p.1 + n * p.2) (text p.1) line) line
  := by
  induction ms generalizing i line with
  | nil => rfl
  | cons m ms ih =>
      obtain ⟨hm, hms⟩ := List.forall_mem_cons.mp h
      rw [List.map_cons, applyShifted, hm, ← Nat.mul_succ]
      apply ih hms

theorem length_insertAt (i : Nat) (t line : Text) :
  (insertAt i t line).length = line.length + t.length
  := by
  have hcut := congrArg List.length (List.take_append_drop i line)
  rw [List.length_append] at hcut
  rw [insertAt, List.length_append, List.length_append, ← hcut]
  omega

/-- Texts of length `n` that are put in, wherever that is, make the line longer by `n` each. -/
theorem length_foldl_insertAt {α : Type} (place : α → Nat) {text : α → Text} {n : Nat} {as : List α}
    (h : ∀ a ∈ as, (text a).length = n) (line : Text) :
  (as.foldl (fun line a => insertAt (place a) (text a) line) line).length =
    line.length + n * as.length
  := by
  induction as generalizing line with
  | nil => rfl
  | cons a as ih =>
      obtain ⟨ha, has⟩ := List.forall_mem_cons.mp h
      rw [List.foldl_cons, ih has, length_insertAt, ha, List.length_cons, Nat.mul_succ]
      omega

/-! ### Edits inside matches -/

namespace Edit

/-- The edit of a text as an edit of a line in which the text begins at `offset`. -/
def shift (e : Edit) (offset : Nat) : Edit := { e with start := offset + e.start }

theorem splice_zero (e : Edit) (t : Text) :
  e.splice 0 0 t = t.take e.start ++ e.inserted ++ t.drop (e.start + e.removed)
  := rfl

/-- An edit inside a stretch of a line changes nothing before and behind the stretch. -/
theorem splice_shift {e : Edit} {offset grown shrunk : Nat} (u : Text) {t : Text} (v : Text)
    (hfit : e.start + e.removed ≤ t.length) (hu : u.length + shrunk = offset + grown) :
  (e.shift offset).splice grown shrunk (u ++ t ++ v) = u ++ e.splice 0 0 t ++ v
  := by
  have hstart : offset + e.start + grown - shrunk = u.length + e.start := by omega
  have htake : (u ++ t ++ v).take (u.length + e.start) = u ++ t.take e.start := by
    rw [List.append_assoc, List.take_length_add_append, List.take_append_of_le_length (by omega)]
  have hdrop : (u ++ t ++ v).drop (u.length + e.start + e.removed) =
      t.drop (e.start + e.removed) ++ v := by
    rw [List.append_assoc, Nat.add_assoc, List.drop_length_add_append,
      List.drop_append_of_le_length hfit]
  rw [splice_zero, splice, shift, hstart, htake, hdrop]
  simp only [List.append_assoc]

theorem length_splice {e : Edit} {t : Text} (hfit : e.start + e.removed ≤ t.length) :
  (e.splice 0 0 t).length + e.removed = t.length + e.inserted.length
  := by
  rw [splice_zero, List.length_append, List.length_append, List.length_take, List.length_drop]
  omega

/-- Edits inside matches, made one after another behind a text that is done, come to the same
as replacing all matches at once. -/
theorem applyShifted_eq_replaceMatches {spot : Text → Edit}
    (hfit : ∀ t, (spot t).start + (spot t).removed ≤ t.length) {offset : Nat} {ms : List Match}
    {s : Text} (h : Placed offset ms s) (done : Text) {grown shrunk : Nat}
    (hdone : done.length + shrunk = offset + grown) :
  applyShifted grown shrunk (ms.map fun m => (spot m.text).shift m.offset) (done ++ s) =
    done ++ replaceMatches (fun t => (spot t).splice 0 0 t) offset ms s
  := by
  induction h generalizing done grown shrunk with
  | nil offset s => rfl
  | @cons offset before m ms rest hoffset _ ih =>
      -- Everything up to the match counts as done, then the match with its edit does.
      have hbefore : (done ++ before).length + shrunk = m.offset + grown := by
        rw [List.length_append, hoffset]
        omega
      have hlen := length_splice (hfit m.text)
      have hdone' : (done ++ before ++ (spot m.text).splice 0 0 m.text).length
            + (shrunk + (spot m.text).removed) =
          m.offset + m.text.length + (grown + (spot m.text).inserted.length) := by
        rw [List.length_append]
        omega
      have hassoc : done ++ (before ++ m.text ++ rest) = done ++ before ++ m.text ++ rest := by
        simp only [List.append_assoc]
      rw [List.map_cons, applyShifted, hassoc, splice_shift _ rest (hfit m.text) hbefore]
      apply Eq.trans (ih _ hdone')
      rw [replaceMatches_cons _ _ _ _ hoffset]
      simp only [List.append_assoc]

/-- Edits inside matches of a line come to the same as replacing all matches at once. -/
theorem applyAll_eq_replaceMatches (spot : Text → Edit)
    (hfit : ∀ t, (spot t).start + (spot t).removed ≤ t.length) {ms : List Match} {line : Text}
    (h : Placed 0 ms line) :
  applyAll (ms.map fun m => (spot m.text).shift m.offset) line =
    replaceMatches (fun t => (spot t).splice 0 0 t) 0 ms line
  := applyShifted_eq_replaceMatches hfit h [] rfl

end Edit

/-! ### Matches replaced piece by piece -/

namespace Pattern

/-- A match at the head of a text gives way to what `f` makes of it. -/
def claim? (p : Pattern) (f : Text → Text) (c : Char) (s : Text) : Option (Nat × Text) :=
  (p.length? (c :: s)).map fun n => (n - 1, f ((c :: s).take n))

/-- The line with every match of a pattern replaced by what `f` makes of it. -/
def rewrite (p : Pattern) (f : Text → Text) (line : Text) : Text :=
  joinPieces (pieces (p.claim? f) line)

theorem claim?_eq_none_iff {p : Pattern} {f : Text → Text} {c : Char} {s : Text} :
  p.claim? f c s = none ↔ p.length? (c :: s) = none
  := Option.map_eq_none_iff

theorem claim?_eq_some {p : Pattern} (f : Text → Text) {c : Char} {s : Text} {n : Nat}
    (h : p.length? (c :: s) = some (n + 1)) :
  p.claim? f c s = some (n, f (c :: s.take n))
  := by
  rw [claim?, h]
  rfl

theorem replaceMatches_matchesFrom {p : Pattern} (hp : p.Consuming) (f : Text → Text)
    (offset : Nat) (s : Text) :
  replaceMatches f offset (p.matchesFrom offset 0 s) s = p.rewrite f s
  := by
  induction offset, s using matchesFrom_induction hp with
  | nil offset => rfl
  | fails offset c s h ih =>
      rw [rewrite, joinPieces_cons_of_none _ (claim?_eq_none_iff.mpr h), ← rewrite, ← ih]
      apply replaceMatches_append_left f [c] (placed_matchesFrom hp (offset + 1) s)
  | found offset c s n h ih =>
      have hlen : (c :: s.take n).length = n + 1 := List.length_take_of_le
        (l := c :: s) (le_length_of_length? h)
      rw [rewrite, joinPieces_cons_of_some _ (claim?_eq_some f h), ← rewrite, ← ih]
      simp only [replaceMatches, hlen, Nat.sub_self, Nat.zero_add, List.take_zero, List.nil_append,
        List.drop_succ_cons]

/-- Replacing all matches at once rewrites the line piece by piece. -/
theorem replaceMatches_matchesIn {p : Pattern} (hp : p.Consuming) (f : Text → Text)
    (line : Text) :
  replaceMatches f 0 (p.matchesIn line) line = p.rewrite f line
  := by
  rw [matchesIn_eq]
  apply replaceMatches_matchesFrom hp

end Pattern

end JapaneseProse
