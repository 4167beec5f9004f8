import JapaneseProse.Text.Blank
import JapaneseProse.Text.Digit

/-!
# Whole numbers as text

A whole number is written in decimal digits of any script, after a sign if there is one.
Single underscores may stand between digits, and white space around the number does not
count.
-/

namespace JapaneseProse

/-- The value of digits that go on from `acc`; `closed` says that the text may end
here. -/
def readDigits (acc : Nat) (closed : Bool) : Text → Option Nat
  | [] => if closed then some acc else none
  | '_' :: s => if closed then readDigits acc false s else none
  | c :: s =>
      match decimalDigit? c with
      | some d => readDigits (acc * 10 + d) true s
      | none => none

/-- The number that a text stands for. -/
def readInteger? (s : Text) : Option Int :=
  match trimEnds isWhiteSpace s with
  | '-' :: digits => (readDigits 0 false digits).map fun n => -(n : Int)
  | '+' :: digits => (readDigits 0 false digits).map Int.ofNat
  | digits => (readDigits 0 false digits).map Int.ofNat

end JapaneseProse
