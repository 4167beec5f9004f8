import JapaneseProse.Text.Basic

/-!
# Numeral glyphs

A digit is written with its everyday glyph, or with the formal one that is used in
deeds, where the units for ten, a hundred, a thousand and ten thousand have formal
glyphs as well.  A decimal point becomes a middle dot.
-/

namespace JapaneseProse.Numeral

/-- The two sets of glyphs. -/
inductive Glyphs where
  | modern
  | retro
deriving DecidableEq, Repr

namespace Glyphs

/-- The name of a set of glyphs in settings. -/
def name : Glyphs → String
  | modern => "modern"
  | retro => "retro"

/-- The sets of glyphs, in the order in which they are offered. -/
def all : List Glyphs := [modern, retro]

/-- The set of glyphs of some name. -/
def ofName? (s : String) : Option Glyphs := all.find? fun g => g.name == s

/-- What stands for a decimal point. -/
def decimalMark : Char := '・'

/-- Characters and the modern glyphs that stand for them. -/
def modernGlyphs : List (Char × Char) :=
  [('0', '〇'), ('1', '一'), ('2', '二'), ('3', '三'), ('4', '四'), ('5', '五'), ('6', '六'),
    ('7', '七'), ('8', '八'), ('9', '九'), ('.', decimalMark)]

/-- Characters and the formal glyphs that stand for them. -/
def retroGlyphs : List (Char × Char) :=
  [('0', '零'), ('1', '壱'), ('2', '弐'), ('3', '参'), ('4', '肆'), ('5', '伍'), ('6', '陸'),
    ('7', '漆'), ('8', '捌'), ('9', '玖'), ('.', decimalMark), ('十', '拾'), ('百', '佰'),
    ('千', '仟'), ('万', '萬')]

/-- Characters and the glyphs that stand for them. -/
def table : Glyphs → List (Char × Char)
  | modern => modernGlyphs
  | retro => retroGlyphs

/-- The glyph that stands for a character; other characters stand for themselves. -/
def glyph (g : Glyphs) (c : Char) : Char := (g.table.lookup c).getD c

end Glyphs

end JapaneseProse.Numeral
