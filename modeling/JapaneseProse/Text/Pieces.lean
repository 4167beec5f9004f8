import JapaneseProse.Text.Basic

/-!
# Pieces of a text

A text is cut from left to right into pieces.  At each place `take?` may claim the
character there together with some of those after it and turn them into a value;
a character that is not claimed is kept as it is.  A path is cut at every slash.
-/

namespace JapaneseProse

/-- A character that was kept, or the value of a stretch that was claimed. -/
inductive Piece (α : Type) where
  | kept (c : Char)
  | taken (a : α)
deriving DecidableEq, Repr

/-- The pieces of a text after `skip` more characters. -/
def piecesFrom {α : Type} (take? : Char → Text → Option (Nat × α)) : Nat → Text → List (Piece α)
  | _, [] => []
  | skip + 1, _ :: s => piecesFrom take? skip s
  | 0, c :: s =>
      match take? c s with
      | some (more, a) => .taken a :: piecesFrom take? more s
      | none => .kept c :: piecesFrom take? 0 s

/-- The pieces of a text; `take?` sees a character and the text after it, and says how
many characters of that text it claims as well. -/
def pieces {α : Type} (take? : Char → Text → Option (Nat × α)) (s : Text) : List (Piece α) :=
  piecesFrom take? 0 s

/-- The text of pieces whose values are texts. -/
def joinPieces : List (Piece Text) → Text
  | [] => []
  | .kept c :: ps => c :: joinPieces ps
  | .taken t :: ps => t ++ joinPieces ps

section

variable {α : Type} (take? : Char → Text → Option (Nat × α))

theorem piecesFrom_eq_drop (n : Nat) (s : Text) :
  piecesFrom take? n s = pieces take? (s.drop n)
  := by
  induction s generalizing n with
  | nil => cases n <;> simp [piecesFrom, pieces]
  | cons c s ih =>
      cases n with
      | zero => rfl
      | succ n =>
          rw [List.drop_succ_cons, ← ih n]
          rfl

@[simp]
theorem pieces_nil :
  pieces take? [] = []
  := rfl

theorem pieces_cons_of_none {c : Char} {s : Text} (h : take? c s = none) :
  pieces take? (c :: s) = .kept c :: pieces take? s
  := by
  simp [pieces, piecesFrom, h]

/-- A claimed stretch is one piece, and the rest is cut behind it. -/
theorem pieces_cons_of_some {c : Char} {s : Text} {n : Nat} {a : α} (h : take? c s = some (n, a)) :
  pieces take? (c :: s) = .taken a :: pieces take? (s.drop n)
  := by
  rw [← piecesFrom_eq_drop]
  simp [pieces, piecesFrom, h]

end

/-- Characters that are not claimed stay as they are. -/
theorem joinPieces_pieces_of_none (take? : Char → Text → Option (Nat × Text)) (n : Nat) (s : Text)
    (h : ∀ i c r, i < n → s.drop i = c :: r → take? c r = none) :
  joinPieces (pieces take? s) = s.take n ++ joinPieces (pieces take? (s.drop n))
  := by
  induction n generalizing s with
  | zero => rfl
  | succ n ih =>
      cases s with
      | nil => rfl
      | cons c s =>
          have hhead : take? c s = none := h 0 c s (Nat.succ_pos n) rfl
          have htail : ∀ i d r, i < n → s.drop i = d :: r → take? d r = none := by
            intro i d r hi hr
            exact h (i + 1) d r (Nat.succ_lt_succ hi) hr
          rw [pieces_cons_of_none take? hhead, joinPieces, ih s htail]
          rfl

/-! ### Names between slashes -/

/-- A text cut at every slash. -/
def splitAtSlashes : Text → List Text
  | [] => [[]]
  | c :: s =>
      if c = '/' then [] :: splitAtSlashes s
      else
        match splitAtSlashes s with
        | [] => [[c]]
        | name :: names => (c :: name) :: names

end JapaneseProse
