import JapaneseProse.Encoding.Japanese
import JapaneseProse.Encoding.Wide

/-!
# Detection of encodings

Bytes are decoded by the first encoding in which they have no fault: UTF-8, where a byte
order mark at the head is dropped, code page 932 and EUC-JP.  Bytes that have faults in
all of them are taken as UTF-8 with replacement characters.  Bytes that are known to be in
some form of Unicode are decoded by the form that their first bytes tell.
-/

namespace JapaneseProse.Encoding

/-- A text without the byte order mark at its head. -/
def withoutMark : Text → Text
  | '\uFEFF' :: s => s
  | s => s

/-- The text of bytes in the first encoding that fits. -/
def decode (bytes : Bytes) : Text :=
  (((text? Utf8.step bytes).map withoutMark) <|> text? CodePage932.step bytes <|>
    text? EucJp.step bytes).getD (textReplacing Utf8.step bytes)

/-- The text of bytes in some form of Unicode, if they have no fault. -/
def decodeUnicode? (bytes : Bytes) : Option Text :=
  (text? (unicodeStep bytes) bytes).map withoutMark

end JapaneseProse.Encoding
