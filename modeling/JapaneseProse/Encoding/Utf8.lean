import JapaneseProse.Encoding.Bytes

/-!
# UTF-8

A character takes one to four bytes.  The first byte says how many follow and in which
range the next of them lies; all later ones lie between 80 and BF.  Where bytes are
ill-formed, the longest stretch that could have begun a character is taken as one fault,
and at least one byte.
-/

namespace JapaneseProse.Encoding.Utf8

/-- What the first byte of a character announces: the number of bytes that follow, the
range of the next one, and the first bits of the code point. -/
structure Lead where
  following : Nat
  low : Nat
  high : Nat
  bits : Nat
deriving DecidableEq, Repr

/-- The announcement of a first byte of several. -/
def lead? (b : Nat) : Option Lead :=
  if 0xC2 ≤ b ∧ b ≤ 0xDF then some ⟨1, 0x80, 0xBF, b - 0xC0⟩
  else if b = 0xE0 then some ⟨2, 0xA0, 0xBF, 0⟩
  else if b = 0xED then some ⟨2, 0x80, 0x9F, 0xD⟩
  else if 0xE1 ≤ b ∧ b ≤ 0xEF then some ⟨2, 0x80, 0xBF, b - 0xE0⟩
  else if b = 0xF0 then some ⟨3, 0x90, 0xBF, 0⟩
  else if 0xF1 ≤ b ∧ b ≤ 0xF3 then some ⟨3, 0x80, 0xBF, b - 0xF0⟩
  else if b = 0xF4 then some ⟨3, 0x80, 0x8F, 4⟩
  else none

/-- The code point of the bytes that follow a first byte, if they are well-formed, and the
number of them that are. -/
def followers (low high bits taken : Nat) : (following : Nat) → Bytes → Option Nat × Nat
  | 0, _ => (some bits, taken)
  | _ + 1, [] => (none, taken)
  | n + 1, b :: bs =>
      if low ≤ b.toNat ∧ b.toNat ≤ high then
        followers 0x80 0xBF (bits * 0x40 + (b.toNat - 0x80)) (taken + 1) n bs
      else (none, taken)

/-- The character that begins with a byte in UTF-8. -/
def step : Step := fun b bs =>
  if b.toNat < 0x80 then (some (Char.ofNat b.toNat), 0)
  else
    match lead? b.toNat with
    | none => (none, 0)
    | some l =>
        let (code, n) := followers l.low l.high l.bits 0 l.following bs
        (code.map Char.ofNat, n)

end JapaneseProse.Encoding.Utf8
