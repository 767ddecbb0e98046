import SqlDialect.Text.Blank
import SqlDialect.Token

/-!
# Splitting a text into tokens

Blanks only separate tokens. A quote opens a literal, which ends before the
next quote that does not directly follow a backslash of the literal. A symbol
is the longest of the listed spellings. Anything else is a word, which goes on
until a blank, a delimiter, or an exclamation mark that an equals sign follows.

No text is refused: what has no other meaning becomes part of a word.

`Token.scan?` reads one token and leaves strictly fewer characters, which is
why `Token.scanAll` comes to an end.
-/

namespace SqlDialect

/-- Whether a character can stand in no word. -/
def isDelimiter (character : Char) : Bool :=
  character ∈ [quoteMark, ',', '(', ')', '=', '<', '>', '*']

/-- Whether a word goes on with a character, given the characters after it. -/
def continuesWord (character : Char) (rest : List Char) : Bool :=
  !isBlank character && !isDelimiter character &&
    !(character = '!' && rest.head? = some '=')

/-- Split a text after the longest word that it begins with. -/
def splitWord : List Char → List Char × List Char
  | [] => ([], [])
  | character :: rest =>
      if continuesWord character rest then
        let split := splitWord rest
        (character :: split.1, split.2)
      else
        ([], character :: rest)

/-- A word is split off the text, and no character is lost. -/
theorem splitWord_append (text : List Char) :
    (splitWord text).1 ++ (splitWord text).2 = text := by
  induction text with
  | nil => rfl
  | cons character rest inductionHypothesis =>
      rw [splitWord]
      split <;> simp [inductionHypothesis]

theorem length_splitWord_le (text : List Char) :
    (splitWord text).2.length ≤ text.length := by
  have lengths := congrArg List.length (splitWord_append text)
  rw [List.length_append] at lengths
  omega

/-- Split the text after an open quote at the quote that closes it. The flag
says whether the character before is a backslash of the same literal. -/
def splitLiteral (escaped : Bool) : List Char → Option (List Char × List Char)
  | [] => none
  | character :: rest =>
      if character = quoteMark && !escaped then
        some ([], rest)
      else
        (splitLiteral (character = escapeMark) rest).map fun split =>
          (character :: split.1, split.2)

/-- A literal is split off the text up to its closing quote, which is the only character
left out. -/
theorem splitLiteral_append
    {escaped : Bool}
    {text raw rest : List Char}
    (closed : splitLiteral escaped text = some (raw, rest)) :
    text = raw ++ quoteMark :: rest := by
  induction text generalizing escaped raw with
  | nil => simp [splitLiteral] at closed
  | cons character tail inductionHypothesis =>
      rw [splitLiteral] at closed
      by_cases closing : character = quoteMark && !escaped
      · rw [if_pos closing] at closed
        simp only [Bool.and_eq_true, decide_eq_true_eq] at closing
        simp only [Option.some.injEq, Prod.mk.injEq] at closed
        simp [← closed.1, ← closed.2, closing.1]
      · rw [if_neg closing] at closed
        obtain ⟨⟨inner, after⟩, closedInner, same⟩ :=
          Option.map_eq_some_iff.mp closed
        simp only [Prod.mk.injEq] at same
        rw [inductionHypothesis (same.2 ▸ closedInner), ← same.1]
        rfl

theorem length_splitLiteral_lt
    {escaped : Bool}
    {text raw rest : List Char}
    (closed : splitLiteral escaped text = some (raw, rest)) :
    rest.length < text.length := by
  rw [splitLiteral_append closed, List.length_append, List.length_cons]
  omega

/-- The longest symbol that a text begins with, and what follows it. -/
def splitSymbol? : List Char → Option (Token × List Char)
  | ',' :: rest => some (.comma, rest)
  | '(' :: rest => some (.openParen, rest)
  | ')' :: rest => some (.closeParen, rest)
  | '*' :: rest => some (.asterisk, rest)
  | '=' :: rest => some (.equal, rest)
  | '!' :: '=' :: rest => some (.notEqual, rest)
  | '<' :: '=' :: rest => some (.lessThanOrEqual, rest)
  | '<' :: rest => some (.lessThan, rest)
  | '>' :: '=' :: rest => some (.greaterThanOrEqual, rest)
  | '>' :: rest => some (.greaterThan, rest)
  | _ => none

theorem length_splitSymbol?_lt
    {text rest : List Char}
    {symbol : Token}
    (split : splitSymbol? text = some (symbol, rest)) :
    rest.length < text.length := by
  revert split
  fun_cases splitSymbol? text <;> simp <;> grind

namespace Token

/-- The token that a word stands for: a reserved word or an identifier. -/
def ofWord (letters : List Char) : Token :=
  match Keyword.ofLetters? letters with
  | some reserved => .keyword reserved
  | none => .ident (String.ofList letters)

/-- Read the token at the front of a text that does not begin with a blank. -/
def scanFront : List Char → Option (Token × List Char)
  | [] => none
  | first :: rest =>
      if first = quoteMark then
        match splitLiteral false rest with
        | some (raw, after) => some (.literal (String.ofList raw), after)
        | none => some (.ident (String.ofList (first :: rest)), [])
      else
        match splitSymbol? (first :: rest) with
        | some (symbol, after) => some (symbol, after)
        | none =>
            let split := splitWord rest
            some (ofWord (first :: split.1), split.2)

/-- Read the first token of a text, if there is one, and what follows it. -/
def scan? (text : List Char) : Option (Token × List Char) :=
  scanFront (dropBlanks text)

/-- A token takes at least one character, so that the tokens of a text come to an end. -/
theorem length_scanFront_lt
    {text rest : List Char}
    {token : Token}
    (scanned : scanFront text = some (token, rest)) :
    rest.length < text.length := by
  cases text with
  | nil => simp [scanFront] at scanned
  | cons first tail =>
      rw [scanFront] at scanned
      split at scanned
      · cases closed : splitLiteral false tail with
        | some split =>
            have shorter := length_splitLiteral_lt closed
            simp only [closed, Option.some.injEq, Prod.mk.injEq] at scanned
            rw [← scanned.2, List.length_cons]
            omega
        | none =>
            simp only [closed, Option.some.injEq, Prod.mk.injEq] at scanned
            simp [← scanned.2]
      · cases found : splitSymbol? (first :: tail) with
        | some split =>
            simp only [found, Option.some.injEq, Prod.mk.injEq] at scanned
            exact scanned.2 ▸ length_splitSymbol?_lt found
        | none =>
            have notLonger := length_splitWord_le tail
            simp only [found, Option.some.injEq, Prod.mk.injEq] at scanned
            rw [← scanned.2, List.length_cons]
            omega

/-- Reading a token uses up at least one character. -/
theorem length_scan?_lt
    {text rest : List Char}
    {token : Token}
    (scanned : scan? text = some (token, rest)) :
    rest.length < text.length :=
  Nat.lt_of_lt_of_le (length_scanFront_lt scanned) (length_dropBlanks_le text)

/-- Read all tokens of a text. -/
def scanAll (text : List Char) : List Token :=
  match _scanned : scan? text with
  | none => []
  | some (token, rest) => token :: scanAll rest
termination_by text.length
decreasing_by exact length_scan?_lt _scanned

theorem scanAll_of_scan?_eq_none
    {text : List Char}
    (scanned : scan? text = none) :
    scanAll text = [] := by
  rw [scanAll]
  split
  · rfl
  · simp_all

theorem scanAll_of_scan?_eq_some
    {text rest : List Char}
    {token : Token}
    (scanned : scan? text = some (token, rest)) :
    scanAll text = token :: scanAll rest := by
  rw [scanAll]
  split
  · simp_all
  · simp_all

end Token

/-- The tokens of a text. -/
def tokensOf (text : String) : List Token :=
  Token.scanAll text.toList

/-- Whether a text ends inside a literal that is never closed. -/
def endsInsideQuote (text : String) : Bool :=
  match (tokensOf text).getLast? with
  | some token => token.isUnclosed
  | none => false

end SqlDialect
