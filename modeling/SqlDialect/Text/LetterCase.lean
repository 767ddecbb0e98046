/-!
# Words in any case

Names of output formats and of log levels are matched without regard to the case
of the letters of ASCII, of which alone they are made.
-/

namespace SqlDialect

/-- The letters of a word, with those of ASCII in lower case. -/
def foldCase (word : String) : List Char :=
  word.toList.map Char.toLower

/-- Whether two words differ at most in the case of letters of ASCII. -/
def sameWord (left right : String) : Bool :=
  foldCase left = foldCase right

end SqlDialect
