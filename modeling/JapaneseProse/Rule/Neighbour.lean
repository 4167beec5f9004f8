import JapaneseProse.Finding
import JapaneseProse.Text.Pieces

/-!
# Marks beside other marks

Two stretches stand next to each other, the first of one class and the second of
another.  The first is as long as it can be while the second is not empty, and then
the second is as long as it can be.  One rule drops the marks that follow a trigger,
the other those that stand in front of one.
-/

namespace JapaneseProse.Neighbour

/-- A stretch of one class directly followed by a stretch of another. -/
def adjacent (first second : CharClass) : Pattern :=
  .followedBy (.run first) (.run second)

/-- The lengths of the two stretches at the head of a text. -/
def stretches? (first second : CharClass) (s : Text) : Option (Nat × Nat) :=
  ((Pattern.run first).ways s).findSome? fun w =>
    ((Pattern.run second).length? w.2).map fun m => (w.1, m)

/-- What `keep` makes of the pair of stretches at the head of a text, and how many
characters behind the first one belong to the pair. -/
def pairAt? (first second : CharClass) (keep : Text → Text → Text) (c : Char) (s : Text) :
    Option (Nat × Text) :=
  (stretches? first second (c :: s)).map fun (n, m) =>
    (n + m - 1, keep ((c :: s).take n) (((c :: s).drop n).take m))

/-- The pair of stretches at the head of a text, or a first stretch that has no second one,
which is kept. -/
def pairOrRun (first second : CharClass) (keep : Text → Text → Text) (c : Char) (s : Text) :
    Nat × Text :=
  match pairAt? first second keep c s with
  | some pair => pair
  | none =>
      let n := Pattern.runLength first (c :: s) - 1
      (n, (c :: s).take (n + 1))

/-- The line with every pair of stretches replaced by what `keep` makes of the two. -/
def substitute (first second : CharClass) (keep : Text → Text → Text) (line : Text) : Text :=
  joinPieces (pieces (fun c s => some (pairOrRun first second keep c s)) line)

/-- The line without the victims that follow a trigger. -/
def fixAfter (triggers victims : List Text) (line : Text) : Text :=
  substitute (.ofEntries triggers) (.ofEntries victims) (fun kept _ => kept) line

/-- Triggers together with the victims that follow them, as findings. -/
def lintAfter (triggers victims : List Text) (number : Nat) (line : Text) : List Finding :=
  ((adjacent (.ofEntries triggers) (.ofEntries victims)).matchesIn line).map
    (Finding.ofMatch number .markAfterMark)

/-- The line without the victims that stand in front of a trigger. -/
def fixBefore (triggers victims : List Text) (line : Text) : Text :=
  substitute (.ofEntries victims) (.ofEntries triggers) (fun _ kept => kept) line

/-- Triggers together with the victims in front of them, as findings. -/
def lintBefore (triggers victims : List Text) (number : Nat) (line : Text) : List Finding :=
  ((adjacent (.ofEntries victims) (.ofEntries triggers)).matchesIn line).map
    (Finding.ofMatch number .markBeforeMark)

/-! ### Pairs of stretches -/

/-- The pair of stretches at the head of a text is the way in which the one followed by the
other matches there. -/
theorem length?_adjacent (first second : CharClass) (s : Text) :
  (adjacent first second).length? s = (stretches? first second s).map fun w => w.1 + w.2
  := by
  rw [adjacent, Pattern.length?, stretches?, List.map_findSome?]
  congr 1
  funext w
  rw [Function.comp_apply, Option.map_map]
  rfl

theorem pairAt?_eq_none_iff {first second : CharClass} {keep : Text → Text → Text} {c : Char}
    {s : Text} :
  pairAt? first second keep c s = none ↔ (adjacent first second).length? (c :: s) = none
  := by
  rw [pairAt?, length?_adjacent, Option.map_eq_none_iff, Option.map_eq_none_iff]

/-- Where there is no pair, none begins in the rest of the run. -/
theorem pairAt?_eq_none_of_drop {first second : CharClass} {keep : Text → Text → Text}
    {c d : Char} {s r : Text} {n : Nat} (h : pairAt? first second keep c s = none)
    (hn : n ≤ Pattern.runLength first (c :: s)) (hr : (c :: s).drop n = d :: r) :
  pairAt? first second keep d r = none
  := by
  rw [pairAt?_eq_none_iff] at h ⊢
  rw [← hr]
  exact Pattern.length?_drop_eq_none (p := adjacent first second) hn h

/-- A kept run makes no difference: every pair of stretches is replaced, and every other
character stays. -/
theorem substitute_eq (first second : CharClass) (keep : Text → Text → Text) (line : Text) :
  substitute first second keep line = joinPieces (pieces (pairAt? first second keep) line)
  := by
  induction hlen : line.length using Nat.strongRecOn generalizing line with
  | ind len ih =>
      cases line with
      | nil => rfl
      | cons c s =>
          subst hlen
          have hhead : substitute first second keep (c :: s) =
              (pairOrRun first second keep c s).2 ++
                substitute first second keep (s.drop (pairOrRun first second keep c s).1) := by
            rw [substitute, pieces_cons_of_some (a := (pairOrRun first second keep c s).2) _ rfl]
            rfl
          have htail (n : Nat) : substitute first second keep (s.drop n) =
              joinPieces (pieces (pairAt? first second keep) (s.drop n)) := by
            apply ih (s.drop n).length _ _ rfl
            rw [List.length_drop, List.length_cons]
            omega
          rw [hhead, htail]
          cases h : pairAt? first second keep c s with
          | some pair =>
              have hpair : pairOrRun first second keep c s = pair := by rw [pairOrRun, h]
              rw [hpair, pieces_cons_of_some (pairAt? first second keep) h, joinPieces]
          | none =>
              have hrun : pairOrRun first second keep c s =
                  (Pattern.runLength first (c :: s) - 1,
                    c :: s.take (Pattern.runLength first (c :: s) - 1)) := by
                rw [pairOrRun, h]
                rfl
              rw [hrun, pieces_cons_of_none _ h, joinPieces, List.cons_append, List.cons.injEq]
              refine ⟨rfl, Eq.symm ?_⟩
              apply joinPieces_pieces_of_none
              intro i d r hi hr
              apply pairAt?_eq_none_of_drop h (n := i + 1) (by omega)
              rw [List.drop_succ_cons, hr]

end JapaneseProse.Neighbour
