import Stencil.Text.Ranges

/-!
# Blank characters

The characters that count as white space around names, paths and values, and removal of them from
both ends of a text.
-/

namespace Stencil.Text

/--
The blank characters: the separators and controls whose bidirectional class is white space, a
paragraph or a segment separator, and the space separators.
-/
def blankRanges : Ranges :=
  [(0x9, 0xD), (0x1C, 0x20), (0x85, 0x85), (0xA0, 0xA0), (0x1680, 0x1680), (0x2000, 0x200A),
   (0x2028, 0x2029), (0x202F, 0x202F), (0x205F, 0x205F), (0x3000, 0x3000)]

/-- Tells whether a character is blank. -/
def isBlank (c : Char) : Bool :=
  blankRanges.contains c.toNat

/-- Drops the blanks at both ends. -/
def strip (cs : List Char) : List Char :=
  ((cs.dropWhile isBlank).reverse.dropWhile isBlank).reverse

/-- Tells whether a text has at least one character and only blank ones. -/
def isBlankText (cs : List Char) : Bool :=
  !cs.isEmpty && cs.all isBlank

end Stencil.Text
