import SqlDialect.Keyword

/-!
# Tokens

The lexical tokens of the dialect: quoted literals, bare words, reserved words
and symbols. A literal keeps its text exactly as it stands between the quotes,
so a backslash that protects a quote stays where it is.

A quote that is never closed yields an identifier that begins with the quote
itself. No bare word begins so, which is how the end of an unfinished statement
is told from a name: `Token.field?` accepts names only.
-/

namespace SqlDialect

/-- The character that encloses a literal. -/
def quoteMark : Char := '\x27'

/-- The character that keeps a quote after it from closing a literal. -/
def escapeMark : Char := '\\'

/-- A lexical token. -/
inductive Token
  | literal (text : String)
  | ident (text : String)
  | keyword (keyword : Keyword)
  | comma
  | openParen
  | closeParen
  | equal
  | notEqual
  | lessThan
  | lessThanOrEqual
  | greaterThan
  | greaterThanOrEqual
  | asterisk
  deriving DecidableEq

/-- Whether a text begins with a quote. -/
def beginsWithQuote (text : String) : Bool :=
  text.toList.head? = some quoteMark

/-- A text in quotes. -/
def quoted (text : String) : String :=
  "'" ++ text ++ "'"

theorem toList_quoted (text : String) :
    (quoted text).toList = quoteMark :: (text.toList ++ [quoteMark]) := by
  simp [quoted, quoteMark]

namespace Token

/-- A token as it is written in a statement. -/
def text : Token → String
  | literal raw => quoted raw
  | ident word => word
  | keyword reserved => reserved.text
  | comma => ","
  | openParen => "("
  | closeParen => ")"
  | equal => "="
  | notEqual => "!="
  | lessThan => "<"
  | lessThanOrEqual => "<="
  | greaterThan => ">"
  | greaterThanOrEqual => ">="
  | asterisk => "*"

/-- The name that a token stands for: an identifier with no open quote. -/
def field? : Token → Option String
  | ident word => if beginsWithQuote word then none else some word
  | _ => none

/-- The value that a token stands for: the text of a literal. -/
def value? : Token → Option String
  | literal raw => some raw
  | _ => none

/-- A word is the name of a field unless it begins with a quote. -/
theorem field?_eq_some_iff
    {token : Token}
    {name : String} :
    token.field? = some name ↔
      token = ident name ∧ beginsWithQuote name = false := by
  cases token <;> simp [field?]
  grind

/-- Only a literal has a value. -/
theorem value?_eq_some_iff
    {token : Token}
    {value : String} :
    token.value? = some value ↔ token = literal value := by
  cases token <;> simp [value?]

/-- Whether a token is what a quote without an end leaves. -/
def isUnclosed : Token → Bool
  | ident word => beginsWithQuote word
  | _ => false

end Token

end SqlDialect
