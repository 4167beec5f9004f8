import JapaneseProse.Text.Basic

/-!
# Decoding of bytes

Bytes are decoded from left to right.  An encoding says which character begins with a
byte and how many of the bytes after it belong to that character, or that no character
begins there and how many bytes the fault takes.
-/

namespace JapaneseProse.Encoding

/-- A sequence of bytes. -/
abbrev Bytes := List UInt8

/-- The character that begins with a byte, or none, and the number of bytes after the
first that are taken with it. -/
abbrev Step := UInt8 → Bytes → Option Char × Nat

/-- The characters of bytes after `skip` more of them, with none for each fault. -/
def charactersFrom (step : Step) : (skip : Nat) → Bytes → List (Option Char)
  | _, [] => []
  | skip + 1, _ :: bs => charactersFrom step skip bs
  | 0, b :: bs =>
      let (c, n) := step b bs
      c :: charactersFrom step n bs

/-- The characters of bytes, with none for each fault. -/
def characters (step : Step) (bytes : Bytes) : List (Option Char) := charactersFrom step 0 bytes

/-- The text of bytes without fault. -/
def text? (step : Step) (bytes : Bytes) : Option Text := (characters step bytes).mapM id

/-- The text of bytes, with the replacement character for each fault. -/
def textReplacing (step : Step) (bytes : Bytes) : Text :=
  (characters step bytes).map (·.getD '\uFFFD')

end JapaneseProse.Encoding
