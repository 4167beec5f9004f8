import JapaneseProse.Encoding.Bytes
import JapaneseProse.Encoding.JisSupplement

/-!
# Japanese encodings

Code page 932 is Shift JIS with the extensions of Windows: two rows of characters share a
first byte, and half-width katakana take one byte.  EUC-JP gives the row and the cell by
one byte each; another byte in front stands for half-width katakana or for the
supplementary rows.
-/

namespace JapaneseProse.Encoding

namespace CodePage932

/-- The character of a byte that stands alone. -/
def single? (b : Nat) : Option Char :=
  if b ≤ 0x80 then some (Char.ofNat b)
  else if b = 0xA0 then some '\uF8F0'
  else if 0xA1 ≤ b ∧ b ≤ 0xDF then some (Char.ofNat (0xFEC0 + b))
  else if 0xFD ≤ b then some (Char.ofNat (0xF8F1 + (b - 0xFD)))
  else none

/-- The place of a second byte among the 188 that may follow a first one. -/
def place? (b : Nat) : Option Nat :=
  if 0x40 ≤ b ∧ b ≤ 0x7E then some (b - 0x40)
  else if 0x80 ≤ b ∧ b ≤ 0xFC then some (b - 0x41)
  else none

/-- The character of two bytes.  First bytes from F0 to F9 are for private use. -/
def double? (a b : Nat) : Option Char := do
  let place ← place? b
  if 0xF0 ≤ a ∧ a ≤ 0xF9 then some (Char.ofNat (0xE000 + 188 * (a - 0xF0) + place))
  else
    let pair := if a < 0xE0 then a - 0x81 else a - 0xC1
    cell? jisRows (2 * pair + 1 + place / 94) (place % 94 + 1)

/-- The character that begins with a byte in code page 932. -/
def step : Step := fun b bs =>
  match single? b.toNat, bs with
  | some c, _ => (some c, 0)
  | none, b' :: _ => (double? b.toNat b'.toNat, 1)
  | none, [] => (none, 0)

end CodePage932

namespace EucJp

/-- Characters of the rows for which EUC-JP has another one. -/
def variants : List (Char × Char) :=
  [('～', '〜'), ('∥', '‖'), ('－', '−'), ('￠', '¢'), ('￡', '£'), ('￢', '¬')]

/-- Whether a row belongs to the standard set. -/
def isStandardRow (row : Nat) : Bool := 1 ≤ row && row ≤ 84 && row != 13

/-- The half-width katakana of a byte. -/
def katakana? (b : Nat) : Option Char :=
  if 0xA1 ≤ b ∧ b ≤ 0xDF then some (Char.ofNat (0xFEC0 + b)) else none

/-- The character of two bytes. -/
def double? (a b : Nat) : Option Char :=
  if 0xA1 ≤ a ∧ 0xA1 ≤ b ∧ isStandardRow (a - 0xA0) then
    (cell? jisRows (a - 0xA0) (b - 0xA0)).map fun c => (variants.lookup c).getD c
  else none

/-- The supplementary character of two bytes. -/
def supplementary? (a b : Nat) : Option Char :=
  if 0xA1 ≤ a ∧ 0xA1 ≤ b then cell? supplementRows (a - 0xA0) (b - 0xA0) else none

/-- The character that begins with a byte in EUC-JP. -/
def step : Step := fun b bs =>
  if b.toNat < 0x80 then (some (Char.ofNat b.toNat), 0)
  else if b = 0x8F then
    match bs with
    | x :: y :: _ => (supplementary? x.toNat y.toNat, 2)
    | _ => (none, 0)
  else
    match bs with
    | x :: _ =>
        if b = 0x8E then (katakana? x.toNat, 1) else (double? b.toNat x.toNat, 1)
    | [] => (none, 0)

end EucJp

end JapaneseProse.Encoding
