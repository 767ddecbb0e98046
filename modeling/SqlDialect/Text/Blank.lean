import SqlDialect.Text.CodeRanges

/-!
# Blank characters

A character is blank when it has the Unicode property `White_Space`. Blanks
separate the tokens of a statement, and they are trimmed off both ends of what
is entered in a session. This is a wider class than the blanks of ASCII: it
holds the no-break space and the ideographic space, but not the zero-width
space.
-/

namespace SqlDialect

/-- The code points with the Unicode property `White_Space`. -/
def blankRanges : List CodeRange :=
  [(0x09, 0x0D), (0x20, 0x20), (0x85, 0x85), (0xA0, 0xA0), (0x1680, 0x1680),
    (0x2000, 0x200A), (0x2028, 0x2029), (0x202F, 0x202F), (0x205F, 0x205F),
    (0x3000, 0x3000)]

/-- Whether a character is blank. -/
def isBlank (character : Char) : Bool :=
  inCodeRanges blankRanges character

theorem isBlank_space : isBlank ' ' = true := by decide

theorem isBlank_newline : isBlank '\n' = true := by decide

/-- Drop the blanks at the front of a text. -/
def dropBlanks (text : List Char) : List Char :=
  text.dropWhile isBlank

theorem length_dropBlanks_le (text : List Char) :
    (dropBlanks text).length ≤ text.length :=
  (List.dropWhile_sublist isBlank).length_le

/-- Drop the blanks at both ends of a text. -/
def trimBlanks (text : List Char) : List Char :=
  (dropBlanks (dropBlanks text).reverse).reverse

/-- Whether a text has no character that is not blank. -/
def isAllBlank (text : List Char) : Bool :=
  text.all isBlank

end SqlDialect
