import JapaneseProse.Json.Number
import JapaneseProse.Text.Basic

/-!
# Shortest decimals

A floating point value is written with the fewest decimal digits that are rounded to it
again, and among these with the digits that are nearest to it.  Values from a ten
thousandth to below ten to the sixteenth are written without an exponent, and then with
at least one decimal place.
-/

namespace JapaneseProse.Json

/-- Whether two floating point values are the same number. -/
def Binary64.isSameNumber : Binary64 → Binary64 → Bool
  | finite _ m p, finite _ n q =>
      m <<< (p - min p q).toNat == n <<< (q - min p q).toNat
  | x, y => x == y

/-- The number of digits of a positive quotient before its point; it is zero or negative
for a quotient that begins with decimal places of value zero.  Four hundred places are
enough for every floating point value. -/
def pointOf (num den : Nat) : Int :=
  ((Nat.toDigits 10 (num * Nat.pow 10 400 / den)).length : Int) - 400

/-- The two decimals of `digits` digits between which a positive quotient lies, the nearer
one first; of two that are equally near the even one comes first. -/
def neighbours (num den digits : Nat) : List Decimal :=
  let exponent := pointOf num den - digits
  let num := num * Nat.pow 10 (-exponent).toNat
  let den := den * Nat.pow 10 exponent.toNat
  let below : Decimal := ⟨false, num / den, exponent⟩
  let above : Decimal := ⟨false, num / den + 1, exponent⟩
  if roundHalfEven num den = num / den then [below, above] else [above, below]

/-- The decimal with the fewest digits that is rounded to a finite value again, without
its sign. -/
def shortest (significand : Nat) (exponent : Int) : Decimal :=
  let x := Binary64.finite false significand exponent
  let num := significand <<< exponent.toNat
  let den := 1 <<< (-exponent).toNat
  let candidates := (List.range 17).flatMap fun n => neighbours num den (n + 1)
  (candidates.find? fun d => d.toBinary64.isSameNumber x).getD ⟨false, 0, 0⟩

/-- An exponent: its sign and at least two digits. -/
def writeExponent (n : Int) : Text :=
  let digits := Nat.toDigits 10 n.natAbs
  (if n < 0 then '-' else '+') :: List.replicate (2 - digits.length) '0' ++ digits

/-- Digits with a point behind the first `point` of them. -/
def placePoint (digits : Text) (point : Int) : Text :=
  if point ≤ 0 then '0' :: '.' :: List.replicate (-point).toNat '0' ++ digits
  else
    let whole := digits.take point.toNat
    let fraction := digits.drop point.toNat
    whole ++ List.replicate (point.toNat - whole.length) '0' ++ '.' ::
      (if fraction.isEmpty then ['0'] else fraction)

/-- Digits with an exponent; the point stands behind the first digit. -/
def scientific (digits : Text) (point : Int) : Text :=
  let fraction := digits.drop 1
  digits.take 1 ++ (if fraction.isEmpty then [] else '.' :: fraction) ++
    'e' :: writeExponent (point - 1)

/-- A decimal without its sign. -/
def Decimal.toText (d : Decimal) : Text :=
  let written := Nat.toDigits 10 d.coefficient
  let digits := (written.reverse.dropWhile (· == '0')).reverse
  let point := d.exponent + written.length
  if point ≤ -4 ∨ 16 < point then scientific digits point else placePoint digits point

/-- A floating point value as a decimal; `infinity` and `nan` are the words for what is
no decimal. -/
def Binary64.toText (infinity nan : Text) : Binary64 → Text
  | finite negative significand exponent =>
      (if negative then ['-'] else []) ++
        (if significand = 0 then ['0', '.', '0'] else (shortest significand exponent).toText)
  | infinite negative => (if negative then ['-'] else []) ++ infinity
  | notANumber => nan

end JapaneseProse.Json
