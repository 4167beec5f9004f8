/-!
# Numbers of JSON texts

A number without point and exponent is an integer of any size.  Any other number is
rounded to the nearest value of 53 binary digits, a half going to the even neighbour, as
binary floating point of 64 bits has it; the rounding is done in exact arithmetic.
-/

namespace JapaneseProse.Json

/-- A decimal: a coefficient times a power of ten, with a sign. -/
structure Decimal where
  negative : Bool
  coefficient : Nat
  exponent : Int
deriving DecidableEq, Repr

/-- A value of binary floating point: a whole number times a power of two, an infinity or
no number at all. -/
inductive Binary64 where
  | finite (negative : Bool) (significand : Nat) (exponent : Int)
  | infinite (negative : Bool)
  | notANumber
deriving DecidableEq, Repr

/-- A quotient rounded to a whole number, a half going to the even neighbour. -/
def roundHalfEven (num den : Nat) : Nat :=
  let q := num / den
  let r := num % den
  if 2 * r < den then q
  else if 2 * r > den then q + 1
  else if q % 2 = 0 then q else q + 1

/-- The number `k` such that a positive quotient is at least `2 ^ k` and below
`2 ^ (k + 1)`. -/
def floorLog2 (num den : Nat) : Int :=
  let t : Int := (Nat.log2 num : Int) - (Nat.log2 den : Int)
  if num <<< (-t).toNat ≥ den <<< t.toNat then t else t - 1

/-- A positive quotient rounded to 53 binary digits, or fewer below the smallest normal
value. -/
def roundQuotient (negative : Bool) (num den : Nat) : Binary64 :=
  let q : Int := max (-1074) (floorLog2 num den - 52)
  let significand := roundHalfEven (num <<< (-q).toNat) (den <<< q.toNat)
  if 0 ≤ q ∧ 1 <<< 1024 ≤ significand <<< q.toNat then .infinite negative
  else .finite negative significand q

/-- The floating point value that is nearest to a decimal.  Decimals far beyond the
largest value are infinite, and those far below the smallest are zero. -/
def Decimal.toBinary64 (d : Decimal) : Binary64 :=
  let magnitude : Int := d.exponent + (Nat.toDigits 10 d.coefficient).length
  if d.coefficient = 0 ∨ magnitude < -330 then .finite d.negative 0 0
  else if 310 < magnitude then .infinite d.negative
  else
    roundQuotient d.negative (d.coefficient * Nat.pow 10 d.exponent.toNat)
      (Nat.pow 10 (-d.exponent).toNat)

/-- The whole number that a floating point value is equal to. -/
def Binary64.toInt? : Binary64 → Option Int
  | finite negative significand exponent =>
      let den := 1 <<< (-exponent).toNat
      let num := significand <<< exponent.toNat
      if num % den = 0 then
        some (if negative then -((num / den : Nat) : Int) else ((num / den : Nat) : Int))
      else none
  | infinite _ => none
  | notANumber => none

/-- A number of a JSON text. -/
inductive Number where
  | integer (n : Int)
  | floating (x : Binary64)
deriving DecidableEq, Repr

/-- Whether a number is zero. -/
def Number.isZero : Number → Bool
  | integer n => n == 0
  | floating x => x.toInt? == some 0

end JapaneseProse.Json
