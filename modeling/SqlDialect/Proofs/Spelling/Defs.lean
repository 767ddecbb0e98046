import Mathlib.Data.List.Chain
import SqlDialect.Token.Scan

/-!
# How a text spells tokens

A text spells a list of tokens when it is a spelling of each of them in order,
with blanks in the gaps. The rules are stated on the characters alone, without
the functions that read a text:

* `Token.IsSpelledBy` says which characters spell a single token;
* `Token.NeedsGap` says which neighbours must not touch;
* `Spells` says that a text is made of such spellings and gaps.

That reading a text finds exactly the tokens that it spells is proved in
`SqlDialect.Proofs.Spelling.Text`.
-/

namespace SqlDialect

/-- Every quote among some letters directly follows a backslash of theirs. -/
def QuotesProtected (letters : List Char) : Prop :=
  ∀ before after, letters = before ++ quoteMark :: after →
    before.getLast? = some escapeMark

/-- Letters that can stand between two quotes as they are: neither a quote among
them nor the one after them closes the literal too early or too late. -/
def IsRawLiteral (letters : List Char) : Prop :=
  QuotesProtected letters ∧ letters.getLast? ≠ some escapeMark

/-- Letters that form a name when they stand alone. -/
structure IsBareWord (letters : List Char) : Prop where
  nonempty : letters ≠ []
  noBlank : ∀ letter ∈ letters, isBlank letter = false
  noDelimiter : ∀ letter ∈ letters, isDelimiter letter = false
  notReserved : ∀ keyword : Keyword,
    letters.map Char.toUpper ≠ keyword.text.toList

/-- An open quote with letters after it, none of which closes it. -/
def IsOpenQuote (letters : List Char) : Prop :=
  ∃ rest, letters = quoteMark :: rest ∧ QuotesProtected rest

namespace Token

/-- Whether a token is always written with the same symbol. -/
def isSymbol : Token → Bool
  | literal _ | ident _ | keyword _ => false
  | _ => true

/-- Whether a token is a bare word, reserved or not. -/
def isWord : Token → Bool
  | ident word => !beginsWithQuote word
  | keyword _ => true
  | _ => false

/-- Whether a token is a name that ends in an exclamation mark. -/
def endsInExclamation : Token → Bool
  | ident word => !beginsWithQuote word && word.toList.getLast? = some '!'
  | _ => false

/-- Whether letters are a way to write a token. -/
def IsSpelledBy : Token → List Char → Prop
  | literal raw, letters =>
      letters = quoteMark :: (raw.toList ++ [quoteMark]) ∧
        IsRawLiteral raw.toList
  | ident word, letters =>
      letters = word.toList ∧ (IsBareWord letters ∨ IsOpenQuote letters)
  | keyword reserved, letters =>
      letters.map Char.toUpper = reserved.text.toList
  | symbol, letters => letters = symbol.text.toList

/-- Whether two tokens would be read as something else if they touched. -/
def NeedsGap (left right : Token) : Prop :=
  (left.isWord = true ∧ right.isWord = true) ∨
    ((left = lessThan ∨ left = greaterThan) ∧ right = equal) ∨
    (left.endsInExclamation = true ∧ right = equal)

end Token

/-- A token as it stands in a text: its letters, and the blanks after it. -/
structure SpelledToken where
  token : Token
  letters : List Char
  gap : List Char
  spelled : token.IsSpelledBy letters
  gapBlank : ∀ character ∈ gap, isBlank character = true

namespace SpelledToken

/-- The characters of a token and of the gap after it. -/
def text (piece : SpelledToken) : List Char :=
  piece.letters ++ piece.gap

/-- Whether a token can stand right before another one: it is no quote without
an end, and there is a gap where one is needed. -/
def MayPrecede (left right : SpelledToken) : Prop :=
  left.token.isUnclosed = false ∧
    (left.token.NeedsGap right.token → left.gap ≠ [])

/-- Whether a token can stand last: a quote without an end goes on to the end of
the text. -/
def MayFinish (piece : SpelledToken) : Prop :=
  piece.token.isUnclosed = true → piece.gap = []

end SpelledToken

/-- A text that spells some tokens: blanks, and then each token with the gap
after it. -/
def Spells (text : List Char) (tokens : List Token) : Prop :=
  ∃ (front : List Char) (pieces : List SpelledToken),
    text = front ++ pieces.flatMap SpelledToken.text ∧
      pieces.map SpelledToken.token = tokens ∧
      (∀ character ∈ front, isBlank character = true) ∧
      pieces.IsChain SpelledToken.MayPrecede ∧
      ∀ last ∈ pieces.getLast?, last.MayFinish

/-! ## Protected quotes -/

@[simp] theorem quotesProtected_nil : QuotesProtected [] := by
  intro before after split
  simp at split

theorem QuotesProtected.of_append
    {front back : List Char}
    (quotes : QuotesProtected (front ++ back)) :
    QuotesProtected front := by
  intro before after split
  apply quotes before (after ++ back)
  rw [split, List.append_assoc, List.cons_append]

/-- One more letter keeps the quotes protected if it is no quote, or follows a
backslash. -/
theorem quotesProtected_concat_iff
    {letters : List Char}
    {letter : Char} :
    QuotesProtected (letters ++ [letter]) ↔
      QuotesProtected letters ∧
        (letter = quoteMark → letters.getLast? = some escapeMark) := by
  constructor
  · intro quotes
    refine ⟨quotes.of_append, fun isQuote => ?_⟩
    exact quotes letters [] (by rw [isQuote])
  · rintro ⟨quotes, lastQuote⟩ before after split
    rcases List.eq_nil_or_concat after with rfl | ⟨inner, final, rfl⟩
    · obtain ⟨sameFront, isQuote⟩ := List.append_inj' split rfl
      rw [← sameFront]
      exact lastQuote (List.singleton_inj.mp isQuote)
    · rw [List.concat_eq_append, ← List.cons_append, ← List.append_assoc] at split
      exact quotes before inner (List.append_inj' split rfl).1

end SqlDialect
