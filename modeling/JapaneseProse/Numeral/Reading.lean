import JapaneseProse.Numeral.Units
import JapaneseProse.Text.Pieces
import Mathlib.Algebra.Group.Nat.Defs

/-!
# Reading of numerals

A numeral with all units, in modern glyphs, consists of words: digits, units of places and units
of groups of four.  It is read from left to right.  A digit counts with the unit of a place behind
it, and such a unit without a digit counts once.  What is counted makes up a part, which the unit
of a group turns into ten thousands, their squares and so on, and adds to the total.
-/

namespace JapaneseProse.Numeral

/-- A word of a numeral; the units are given as powers of ten and of ten thousand. -/
inductive Word where
  | digit (d : Nat)
  | place (exponent : Nat)
  | group (exponent : Nat)
deriving DecidableEq, Repr

/-- The digits, from zero to nine. -/
def digitWords : Text := ['〇', '一', '二', '三', '四', '五', '六', '七', '八', '九']

/-- The units of places, from ten to a thousand. -/
def placeWords : Text := ['十', '百', '千']

/-- The word that begins with a character. -/
def wordAt? (c : Char) (s : Text) : Option (Nat × Word) :=
  match digitWords.idxOf? c, placeWords.idxOf? c with
  | some d, _ => some (0, .digit d)
  | none, some e => some (0, .place (e + 1))
  | none, none => do
      let (unit, e) ← (myriadUnits.zipIdx 1).find? fun u => u.1.isPrefixOf (c :: s)
      return (unit.length - 1, .group e)

/-- The words of a text, if it consists of words. -/
def words? (s : Text) : Option (List Word) :=
  (pieces wordAt? s).mapM fun
    | .kept _ => none
    | .taken w => some w

/-- What has been read of a numeral: the total up to the last unit of a group, and the part behind
it. -/
structure Reading where
  total : Nat
  part : Nat
deriving DecidableEq, Repr

namespace Reading

/-- Nothing has been read. -/
def start : Reading := ⟨0, 0⟩

/-- Something is counted in the part. -/
def add (r : Reading) (n : Nat) : Reading := { r with part := r.part + n }

/-- The part is counted as a multiple of a power of ten thousand. -/
def close (r : Reading) (exponent : Nat) : Reading :=
  ⟨r.total + r.part * 10 ^ (4 * exponent), 0⟩

/-- The number that has been read. -/
def value (r : Reading) : Nat := r.total + r.part

end Reading

/-- The words are read one after another. -/
def readWords (r : Reading) : List Word → Reading
  | [] => r
  | .digit d :: .place e :: ws => readWords (r.add (d * 10 ^ e)) ws
  | .digit d :: ws => readWords (r.add d) ws
  | .place e :: ws => readWords (r.add (10 ^ e)) ws
  | .group e :: ws => readWords (r.close e) ws

/-- The number that a numeral stands for, if it can be read. -/
def read? (s : Text) : Option Nat :=
  (words? s).map fun ws => (readWords .start ws).value

end JapaneseProse.Numeral
