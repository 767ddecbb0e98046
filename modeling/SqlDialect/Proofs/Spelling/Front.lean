import Mathlib.Tactic.FinCases
import SqlDialect.Proofs.Spelling.Defs

/-!
# Reading one token

A text that does not begin with a blank begins with exactly one token, and the
token that `Token.scanFront` reads there is the longest that can be read. What
"longest" means depends on the token, and `Token.EndsBefore` says it by the first
characters of the rest alone. With that, reading a token undoes its spelling:
`Token.scanFront_of_isSpelledBy` and `Token.isSpelledBy_of_scanFront`.
-/

namespace SqlDialect

/-! ## Words -/

/-- A word goes on with all that is neither a blank nor a delimiter, unless it is the
exclamation mark of an unequal sign. -/
theorem continuesWord_eq_true_iff
    {character : Char}
    {rest : List Char} :
    continuesWord character rest = true ↔
      isBlank character = false ∧
        isDelimiter character = false ∧
        (character = '!' → rest.head? ≠ some '=') := by
  simp [continuesWord, and_assoc, imp_iff_not_or]

/-- Whether a word that stands before a text would go on into it. -/
def wordGoesOn : List Char → Bool
  | [] => false
  | first :: rest => continuesWord first rest

@[simp] theorem wordGoesOn_nil : wordGoesOn [] = false := rfl

@[simp] theorem wordGoesOn_cons (first : Char) (rest : List Char) :
    wordGoesOn (first :: rest) = continuesWord first rest := rfl

/-- A word ends before a text that would not go on with it, and whose equals sign
does not take an exclamation mark away from it. -/
def WordEnds (word rest : List Char) : Prop :=
  wordGoesOn rest = false ∧
    (word.getLast? = some '!' → rest.head? ≠ some '=')

/-- Letters that can stand in a word. -/
def IsWordPart (letters : List Char) : Prop :=
  ∀ letter ∈ letters, isBlank letter = false ∧ isDelimiter letter = false

theorem IsBareWord.isWordPart
    {letters : List Char}
    (bare : IsBareWord letters) :
    IsWordPart letters :=
  fun letter member => ⟨bare.noBlank letter member, bare.noDelimiter letter member⟩

theorem IsWordPart.isBareWord
    {letters : List Char}
    (inWord : IsWordPart letters)
    (nonempty : letters ≠ [])
    (notReserved : ∀ keyword : Keyword,
      letters.map Char.toUpper ≠ keyword.text.toList) :
    IsBareWord letters where
  nonempty := nonempty
  noBlank := fun letter member => (inWord letter member).1
  noDelimiter := fun letter member => (inWord letter member).2
  notReserved := notReserved

theorem splitWord_of_not_wordGoesOn
    {rest : List Char}
    (stops : wordGoesOn rest = false) :
    splitWord rest = ([], rest) := by
  cases rest with
  | nil => rfl
  | cons first tail =>
      rw [wordGoesOn_cons] at stops
      rw [splitWord, stops, if_neg Bool.false_ne_true]

/-- A word goes on from each of its letters up to where it ends. -/
theorem continuesWord_of_wordEnds
    {letter : Char}
    {word rest : List Char}
    (inWord : IsWordPart (letter :: word))
    (ends : WordEnds (letter :: word) rest) :
    continuesWord letter (word ++ rest) = true := by
  obtain ⟨letterInWord, wordInWord⟩ := List.forall_mem_cons.mp inWord
  refine continuesWord_eq_true_iff.mpr
    ⟨letterInWord.1, letterInWord.2, fun mark => ?_⟩
  cases word with
  | nil => exact ends.2 (by rw [mark]; rfl)
  | cons next word =>
      -- An equals sign is a delimiter, so none stands inside a word.
      intro sign
      have isSign : next = '=' := Option.some.inj sign
      have notDelimiter := (wordInWord next List.mem_cons_self).2
      rw [isSign] at notDelimiter
      exact absurd notDelimiter (by decide)

/-- A word is split off where it ends. -/
theorem splitWord_append_of_wordEnds
    {word rest : List Char}
    (inWord : IsWordPart word)
    (ends : WordEnds word rest) :
    splitWord (word ++ rest) = (word, rest) := by
  induction word with
  | nil => exact splitWord_of_not_wordGoesOn ends.1
  | cons letter word inductionHypothesis =>
      have goesOn := continuesWord_of_wordEnds inWord ends
      have endsLater : WordEnds word rest := by
        refine ⟨ends.1, fun mark => ends.2 ?_⟩
        rw [List.getLast?_cons, mark]
        rfl
      rw [List.cons_append, splitWord, if_pos goesOn,
        inductionHypothesis (List.forall_mem_cons.mp inWord).2 endsLater]

/-- What is split off is a word that ends before the rest. -/
theorem wordEnds_of_splitWord
    {text word rest : List Char}
    (split : splitWord text = (word, rest)) :
    IsWordPart word ∧ WordEnds word rest := by
  induction text generalizing word with
  | nil =>
      obtain ⟨rfl, rfl⟩ := Prod.mk.inj split
      simp [IsWordPart, WordEnds]
  | cons letter text inductionHypothesis =>
      rw [splitWord] at split
      by_cases goesOn : continuesWord letter text = true
      · rw [if_pos goesOn] at split
        obtain ⟨inner, after, innerSplit⟩ :
            ∃ inner after, splitWord text = (inner, after) := ⟨_, _, rfl⟩
        rw [innerSplit] at split
        obtain ⟨rfl, rfl⟩ := Prod.mk.inj split
        obtain ⟨inWord, ends⟩ := inductionHypothesis innerSplit
        obtain ⟨notBlank, notDelimiter, noSign⟩ :=
          continuesWord_eq_true_iff.mp goesOn
        refine ⟨?_, ends.1, fun mark => ?_⟩
        · exact List.forall_mem_cons.mpr ⟨⟨notBlank, notDelimiter⟩, inWord⟩
        · -- The exclamation mark at the end is this letter if no other is in the word.
          have whole := splitWord_append text
          rw [innerSplit] at whole
          cases inner with
          | nil =>
              rw [List.nil_append] at whole
              rw [whole]
              exact noSign (by simpa using mark)
          | cons next inner =>
              exact ends.2 (by simpa using mark)
      · rw [if_neg goesOn] at split
        obtain ⟨rfl, rfl⟩ := Prod.mk.inj split
        refine ⟨by simp [IsWordPart], by simpa using goesOn, by simp⟩

/-! ## Reserved words -/

/-- The letters of ASCII, by their code points. -/
theorem toNat_of_isAlpha
    {letter : Char}
    (alpha : letter.isAlpha = true) :
    (65 ≤ letter.toNat ∧ letter.toNat ≤ 90) ∨
      (97 ≤ letter.toNat ∧ letter.toNat ≤ 122) := by
  rcases (Bool.or_eq_true _ _).mp alpha with capital | small
  · exact .inl (of_decide_eq_true capital)
  · obtain ⟨atLeast, atMost⟩ := (Bool.and_eq_true _ _).mp small
    exact .inr ⟨of_decide_eq_true atLeast, of_decide_eq_true atMost⟩

/-- The letters of ASCII can stand in a word. -/
theorem inWord_of_isAlpha
    {letter : Char}
    (alpha : letter.isAlpha = true) :
    isBlank letter = false ∧ isDelimiter letter = false := by
  have bounds := toNat_of_isAlpha alpha
  constructor
  · simp only [isBlank, inCodeRanges, blankRanges, List.any_cons, List.any_nil,
      Bool.or_false, Bool.or_eq_false_iff, Bool.and_eq_false_iff,
      decide_eq_false_iff_not]
    omega
  · simp only [isDelimiter, decide_eq_false_iff_not]
    intro member
    fin_cases member <;> revert bounds <;> decide

theorem all_isAlpha_text (keyword : Keyword) :
    keyword.text.toList.all Char.isAlpha = true := by
  cases keyword <;> decide

/-- Only letters of ASCII become letters of it in upper case. -/
theorem isAlpha_of_isAlpha_toUpper
    {letter : Char}
    (alpha : letter.toUpper.isAlpha = true) :
    letter.isAlpha = true := by
  by_cases small : letter.isLower = true
  · exact (Bool.or_eq_true _ _).mpr (.inr small)
  · have unchanged : letter.toUpper = letter := dif_neg fun ⟨atLeast, atMost⟩ =>
      small ((Bool.and_eq_true _ _).mpr ⟨decide_eq_true atLeast, decide_eq_true atMost⟩)
    rwa [unchanged] at alpha

/-- The letters of a spelling of a reserved word are letters of ASCII. -/
theorem isAlpha_of_spelled
    {letters : List Char}
    {keyword : Keyword}
    (spelled : letters.map Char.toUpper = keyword.text.toList) :
    ∀ letter ∈ letters, letter.isAlpha = true := by
  intro letter member
  apply isAlpha_of_isAlpha_toUpper
  apply List.all_eq_true.mp (all_isAlpha_text keyword)
  rw [← spelled]
  exact List.mem_map_of_mem member

theorem isWordPart_of_spelled
    {letters : List Char}
    {keyword : Keyword}
    (spelled : letters.map Char.toUpper = keyword.text.toList) :
    IsWordPart letters :=
  fun letter member => inWord_of_isAlpha (isAlpha_of_spelled spelled letter member)

theorem ne_nil_of_spelled
    {letters : List Char}
    {keyword : Keyword}
    (spelled : letters.map Char.toUpper = keyword.text.toList) :
    letters ≠ [] := by
  rintro rfl
  cases keyword <;> simp [Keyword.text] at spelled

/-! ## Literals -/

section Literal

variable {seen : List Char}

/-- A letter that leaves the quotes protected is part of the literal. -/
theorem splitLiteral_cons_of_protected
    {letter : Char}
    (quotes : QuotesProtected (seen ++ [letter]))
    (text : List Char) :
    splitLiteral (seen.getLast? = some escapeMark) (letter :: text) =
      (splitLiteral ((seen ++ [letter]).getLast? = some escapeMark) text).map
        fun split => (letter :: split.1, split.2) := by
  have follows := (quotesProtected_concat_iff.mp quotes).2
  rw [splitLiteral, if_neg, List.getLast?_concat]
  · simp only [Option.some.injEq]
  · simp only [Bool.and_eq_true, decide_eq_true_eq, Bool.not_eq_true',
      decide_eq_false_iff_not]
    exact fun closing => closing.2 (follows closing.1)

/-- A letter that leaves a quote unprotected is that quote, and ends the
literal. -/
theorem splitLiteral_cons_of_not_protected
    {letter : Char}
    (quotes : QuotesProtected seen)
    (closes : ¬QuotesProtected (seen ++ [letter]))
    (text : List Char) :
    letter = quoteMark ∧ seen.getLast? ≠ some escapeMark ∧
      splitLiteral (seen.getLast? = some escapeMark) (letter :: text) =
        some ([], text) := by
  rw [quotesProtected_concat_iff] at closes
  have isQuote : letter = quoteMark := by
    by_contra other
    exact closes ⟨quotes, fun isQuote => absurd isQuote other⟩
  have follows : seen.getLast? ≠ some escapeMark :=
    fun escaped => closes ⟨quotes, fun _ => escaped⟩
  refine ⟨isQuote, follows, ?_⟩
  rw [splitLiteral, if_pos]
  simp [isQuote, follows]

/-- A literal has no end exactly if no quote in the text is unprotected. -/
theorem splitLiteral_eq_none_iff
    {text : List Char}
    (quotes : QuotesProtected seen) :
    splitLiteral (seen.getLast? = some escapeMark) text = none ↔
      QuotesProtected (seen ++ text) := by
  induction text generalizing seen with
  | nil => simpa [splitLiteral] using quotes
  | cons letter text inductionHypothesis =>
      rw [List.append_cons seen]
      by_cases next : QuotesProtected (seen ++ [letter])
      · rw [splitLiteral_cons_of_protected next, Option.map_eq_none_iff]
        exact inductionHypothesis next
      · obtain ⟨-, -, split⟩ := splitLiteral_cons_of_not_protected quotes next text
        rw [split]
        exact ⟨fun closed => absurd closed (by simp),
          fun whole => absurd whole.of_append next⟩

/-- A literal ends at the quote after letters that can stand between quotes. -/
theorem splitLiteral_eq_some_iff
    {text raw rest : List Char}
    (quotes : QuotesProtected seen) :
    splitLiteral (seen.getLast? = some escapeMark) text = some (raw, rest) ↔
      text = raw ++ quoteMark :: rest ∧ IsRawLiteral (seen ++ raw) := by
  induction text generalizing seen raw with
  | nil => simp [splitLiteral]
  | cons letter text inductionHypothesis =>
      -- The literal ends here exactly if the letter is a quote without a backslash before it.
      by_cases next : QuotesProtected (seen ++ [letter])
      · rw [splitLiteral_cons_of_protected next, Option.map_eq_some_iff]
        constructor
        · rintro ⟨⟨inner, after⟩, split, same⟩
          obtain ⟨rfl, rfl⟩ := Prod.mk.inj same
          obtain ⟨whole, isRaw⟩ := (inductionHypothesis next).mp split
          exact ⟨by rw [whole, List.cons_append], by rwa [List.append_cons]⟩
        · rintro ⟨whole, isRaw⟩
          cases raw with
          | nil =>
              obtain ⟨isQuote, -⟩ := List.cons.inj whole
              rw [List.append_nil] at isRaw
              have follows := (quotesProtected_concat_iff.mp next).2 isQuote
              exact absurd follows isRaw.2
          | cons first inner =>
              obtain ⟨rfl, wholeTail⟩ := List.cons.inj whole
              rw [List.append_cons] at isRaw
              exact ⟨(inner, rest),
                (inductionHypothesis next).mpr ⟨wholeTail, isRaw⟩, rfl⟩
      · obtain ⟨isQuote, follows, split⟩ :=
          splitLiteral_cons_of_not_protected quotes next text
        rw [split, Option.some.injEq, Prod.mk.injEq]
        constructor
        · rintro ⟨rfl, rfl⟩
          exact ⟨by rw [isQuote, List.nil_append],
            by rw [List.append_nil]; exact ⟨quotes, follows⟩⟩
        · rintro ⟨whole, isRaw⟩
          cases raw with
          | nil => exact ⟨rfl, (List.cons.inj whole).2⟩
          | cons first inner =>
              -- Then the letter would be a quote inside the literal that is not protected.
              obtain ⟨rfl, -⟩ := List.cons.inj whole
              have quotesRaw := isRaw.1
              rw [List.append_cons] at quotesRaw
              exact absurd quotesRaw.of_append next

end Literal

/-- What follows an open quote leaves it open if all its quotes are protected. -/
theorem splitLiteral_false_eq_none_iff {text : List Char} :
    splitLiteral false text = none ↔ QuotesProtected text :=
  splitLiteral_eq_none_iff quotesProtected_nil

/-- What follows an open quote closes it after letters that can stand between
quotes. -/
theorem splitLiteral_false_eq_some_iff
    {text raw rest : List Char} :
    splitLiteral false text = some (raw, rest) ↔
      text = raw ++ quoteMark :: rest ∧ IsRawLiteral raw :=
  splitLiteral_eq_some_iff quotesProtected_nil

instance (letters : List Char) : Decidable (QuotesProtected letters) :=
  decidable_of_iff (splitLiteral false letters = none)
    splitLiteral_false_eq_none_iff

/-! ## One token -/

namespace Token

/-- Whether a token ends before a text, so that no longer token can be read. -/
def EndsBefore : Token → List Char → Prop
  | ident word, rest =>
      if beginsWithQuote word then rest = [] else WordEnds word.toList rest
  | keyword _, rest => wordGoesOn rest = false
  | lessThan, rest | greaterThan, rest => rest.head? ≠ some '='
  | _, _ => True

end Token

/-- A symbol at the front of a text is its own spelling, and the longest one. -/
theorem endsBefore_of_splitSymbol?
    {text rest : List Char}
    {symbol : Token}
    (split : splitSymbol? text = some (symbol, rest)) :
    symbol.isSymbol = true ∧
      text = symbol.text.toList ++ rest ∧
      symbol.EndsBefore rest := by
  have noSign_iff {tail : List Char}
      (noSign : ∀ after, tail = '=' :: after → False) :
      tail.head? ≠ some '=' := by
    intro sign
    obtain ⟨after, tailSplit⟩ := List.head?_eq_some_iff.mp sign
    exact noSign after tailSplit
  revert split
  fun_cases splitSymbol? text with
  | case8 tail noSign =>
      rintro ⟨⟩
      exact ⟨rfl, by simp [Token.text], noSign_iff noSign⟩
  | case10 tail noSign =>
      rintro ⟨⟩
      exact ⟨rfl, by simp [Token.text], noSign_iff noSign⟩
  | case11 => simp
  | _ =>
      rintro ⟨⟩
      exact ⟨rfl, by simp [Token.text], trivial⟩

/-- A symbol is split off where it ends. -/
theorem splitSymbol?_append_of_endsBefore
    {rest : List Char}
    {symbol : Token}
    (isSymbol : symbol.isSymbol = true)
    (ends : symbol.EndsBefore rest) :
    splitSymbol? (symbol.text.toList ++ rest) = some (symbol, rest) := by
  cases symbol with
  | literal | ident | keyword => simp [Token.isSymbol] at isSymbol
  | lessThan | greaterThan =>
      cases rest with
      | nil => rfl
      | cons first tail =>
          have noSign : first ≠ '=' := by simpa [Token.EndsBefore] using ends
          simp [Token.text, splitSymbol?, noSign]
  | _ => simp [Token.text, splitSymbol?]

/-- Where no symbol stands at the front of a text, a word does. -/
theorem splitSymbol?_cons_eq_none_iff
    {first : Char}
    {rest : List Char}
    (notQuote : first ≠ quoteMark) :
    splitSymbol? (first :: rest) = none ↔
      isDelimiter first = false ∧ (first = '!' → rest.head? ≠ some '=') := by
  constructor
  · intro split
    unfold splitSymbol? at split
    split at split <;> simp only [reduceCtorEq] at split
    case h_11 noComma noOpen noClose noAsterisk noEqual noNotEqual _ noLess _
        noGreater =>
      refine ⟨?_, fun mark sign => ?_⟩
      · simp_all [isDelimiter]
      · obtain ⟨after, rfl⟩ := List.head?_eq_some_iff.mp sign
        exact noNotEqual after (by rw [mark])
  · rintro ⟨notDelimiter, noSign⟩
    cases split : splitSymbol? (first :: rest) with
    | none => rfl
    | some result =>
        obtain ⟨isSymbol, whole, -⟩ := endsBefore_of_splitSymbol? split
        cases symbol : result.1 <;>
          simp [symbol, Token.isSymbol, Token.text] at isSymbol whole
        case notEqual => exact absurd (by simp [whole.2]) (noSign whole.1)
        all_goals
          rw [whole.1] at notDelimiter
          exact absurd notDelimiter (by decide)

namespace Token

/-- Something is read at the front of every text that is not empty. -/
theorem scanFront_eq_none_iff {text : List Char} :
    scanFront text = none ↔ text = [] := by
  cases text with
  | nil => simp [scanFront]
  | cons first rest =>
      rw [scanFront]
      split
      · split <;> simp
      · split <;> simp

/-- A literal is read up to the quote that closes it. -/
theorem scanFront_literal
    {raw : List Char}
    (isRaw : IsRawLiteral raw)
    (rest : List Char) :
    scanFront (quoteMark :: (raw ++ quoteMark :: rest)) =
      some (literal (String.ofList raw), rest) := by
  have split : splitLiteral false (raw ++ quoteMark :: rest) = some (raw, rest) :=
    splitLiteral_false_eq_some_iff.mpr ⟨rfl, isRaw⟩
  rw [scanFront, if_pos rfl, split]

/-- A quote without an end is read up to the end of the text. -/
theorem scanFront_openQuote
    {rest : List Char}
    (quotes : QuotesProtected rest) :
    scanFront (quoteMark :: rest) =
      some (ident (String.ofList (quoteMark :: rest)), []) := by
  have split := splitLiteral_false_eq_none_iff.mpr quotes
  rw [scanFront, if_pos rfl, split]

/-- A text that begins with no quote and no symbol begins with a word. -/
theorem scanFront_word
    {first : Char}
    {rest : List Char}
    (notQuote : first ≠ quoteMark)
    (goesOn : continuesWord first rest = true) :
    scanFront (first :: rest) =
      some (ofWord (splitWord (first :: rest)).1,
        (splitWord (first :: rest)).2) := by
  obtain ⟨-, notDelimiter, noSign⟩ := continuesWord_eq_true_iff.mp goesOn
  rw [scanFront, if_neg notQuote,
    (splitSymbol?_cons_eq_none_iff notQuote).mpr ⟨notDelimiter, noSign⟩,
    splitWord, if_pos goesOn]

/-- A symbol is read where it ends. -/
theorem scanFront_symbol
    {symbol : Token}
    {rest : List Char}
    (isSymbol : symbol.isSymbol = true)
    (ends : symbol.EndsBefore rest) :
    scanFront (symbol.text.toList ++ rest) = some (symbol, rest) := by
  have split := splitSymbol?_append_of_endsBefore isSymbol ends
  cases whole : symbol.text.toList ++ rest with
  | nil =>
      rw [whole] at split
      simp [splitSymbol?] at split
  | cons first tail =>
      rw [whole] at split
      have notQuote : first ≠ quoteMark := by
        rintro rfl
        simp [splitSymbol?, quoteMark] at split
      rw [scanFront, if_neg notQuote, split]

/-- A word is read where it ends. -/
theorem scanFront_append_of_wordEnds
    {letters rest : List Char}
    (nonempty : letters ≠ [])
    (inWord : IsWordPart letters)
    (ends : WordEnds letters rest) :
    scanFront (letters ++ rest) = some (ofWord letters, rest) := by
  cases letters with
  | nil => exact absurd rfl nonempty
  | cons first tail =>
      have notQuote : first ≠ quoteMark := by
        rintro rfl
        exact absurd (inWord quoteMark List.mem_cons_self).2 (by decide)
      have split := splitWord_append_of_wordEnds inWord ends
      rw [List.cons_append] at split ⊢
      rw [scanFront_word notQuote (continuesWord_of_wordEnds inWord ends), split]

/-! ### Words as tokens -/

/-- A reserved word is read as one in letters of any case. -/
theorem ofWord_of_spelled
    {letters : List Char}
    {reserved : Keyword}
    (spelled : letters.map Char.toUpper = reserved.text.toList) :
    ofWord letters = keyword reserved := by
  rw [ofWord, Keyword.ofLetters?_eq_some_iff.mpr spelled.symm]

/-- A word that is not reserved is read as it is spelled. -/
theorem ofWord_of_isBareWord
    {letters : List Char}
    (bare : IsBareWord letters) :
    ofWord letters = ident (String.ofList letters) := by
  cases found : Keyword.ofLetters? letters with
  | none => rw [ofWord, found]
  | some reserved =>
      exact absurd (Keyword.ofLetters?_eq_some_iff.mp found).symm
        (bare.notReserved reserved)

/-- A word spells the token that it stands for. -/
theorem isSpelledBy_ofWord
    {letters : List Char}
    (nonempty : letters ≠ [])
    (inWord : IsWordPart letters) :
    (ofWord letters).IsSpelledBy letters := by
  by_cases reserved :
      ∃ keyword : Keyword, letters.map Char.toUpper = keyword.text.toList
  · obtain ⟨keyword, spelled⟩ := reserved
    rw [ofWord_of_spelled spelled]
    exact spelled
  · have bare : IsBareWord letters := inWord.isBareWord nonempty
      fun keyword spelled => reserved ⟨keyword, spelled⟩
    rw [ofWord_of_isBareWord bare]
    exact ⟨String.toList_ofList.symm, Or.inl bare⟩

theorem beginsWithQuote_of_isWordPart
    {letters : List Char}
    (inWord : IsWordPart letters) :
    beginsWithQuote (String.ofList letters) = false := by
  simp only [beginsWithQuote, String.toList_ofList, decide_eq_false_iff_not]
  intro quote
  have notDelimiter := (inWord quoteMark (List.mem_of_mem_head? quote)).2
  exact absurd notDelimiter (by decide)

/-- The token that a word stands for ends where the word ends. -/
theorem endsBefore_ofWord_iff
    {letters rest : List Char}
    (inWord : IsWordPart letters) :
    (ofWord letters).EndsBefore rest ↔ WordEnds letters rest := by
  cases found : Keyword.ofLetters? letters with
  | none =>
      rw [ofWord, found]
      simp only [EndsBefore, beginsWithQuote_of_isWordPart inWord,
        Bool.false_eq_true, if_false, String.toList_ofList]
  | some reserved =>
      have noMark : letters.getLast? ≠ some '!' := by
        intro mark
        have alpha := isAlpha_of_spelled
          (Keyword.ofLetters?_eq_some_iff.mp found).symm '!'
          (List.mem_of_getLast? mark)
        exact absurd alpha (by decide)
      rw [ofWord, found]
      exact (and_iff_left fun mark => absurd mark noMark).symm

/-- Reading the spelling of a token gives that token, where it ends. -/
theorem scanFront_of_isSpelledBy
    {token : Token}
    {letters rest : List Char}
    (spelled : token.IsSpelledBy letters)
    (ends : token.EndsBefore rest) :
    scanFront (letters ++ rest) = some (token, rest) := by
  cases token with
  | literal raw =>
      obtain ⟨rfl, isRaw⟩ := spelled
      have read := scanFront_literal isRaw rest
      rw [String.ofList_toList] at read
      rwa [List.cons_append, List.append_assoc]
  | ident word =>
      obtain ⟨rfl, bare | ⟨after, opened, quotes⟩⟩ := spelled
      · have isIdent : ofWord word.toList = ident word := by
          rw [ofWord_of_isBareWord bare, String.ofList_toList]
        have wordEnds : WordEnds word.toList rest := by
          rw [← endsBefore_ofWord_iff bare.isWordPart, isIdent]
          exact ends
        rw [scanFront_append_of_wordEnds bare.nonempty bare.isWordPart wordEnds,
          isIdent]
      · have isQuote : beginsWithQuote word = true := by
          simp [beginsWithQuote, opened]
        rw [EndsBefore, if_pos isQuote] at ends
        rw [ends, List.append_nil, opened, scanFront_openQuote quotes, ← opened,
          String.ofList_toList]
  | keyword reserved =>
      have isKeyword := ofWord_of_spelled spelled
      have inWord := isWordPart_of_spelled spelled
      have wordEnds : WordEnds letters rest := by
        rw [← endsBefore_ofWord_iff inWord, isKeyword]
        exact ends
      rw [scanFront_append_of_wordEnds (ne_nil_of_spelled spelled) inWord wordEnds,
        isKeyword]
  | _ =>
      rw [show letters = _ from spelled]
      exact scanFront_symbol rfl ends

/-- A symbol is spelled by its text. -/
theorem isSpelledBy_symbol
    {symbol : Token}
    (isSymbol : symbol.isSymbol = true) :
    symbol.IsSpelledBy symbol.text.toList := by
  cases symbol with
  | literal | ident | keyword => simp [Token.isSymbol] at isSymbol
  | _ => rfl

/-- What is read at the front of a text is spelled there, and ends there. -/
theorem isSpelledBy_of_scanFront
    {token : Token}
    {text rest : List Char}
    (notBlank : ∀ first ∈ text.head?, isBlank first = false)
    (scanned : scanFront text = some (token, rest)) :
    ∃ letters, text = letters ++ rest ∧ token.IsSpelledBy letters ∧
      token.EndsBefore rest := by
  cases text with
  | nil => simp [scanFront] at scanned
  | cons first tail =>
      -- The cases come in the order of reading: a quote, then a symbol, then a word.
      by_cases isQuote : first = quoteMark
      · subst isQuote
        cases split : splitLiteral false tail with
        | none =>
            have quotes := splitLiteral_false_eq_none_iff.mp split
            rw [scanFront_openQuote quotes] at scanned
            obtain ⟨rfl, rfl⟩ := Prod.mk.inj (Option.some.inj scanned)
            refine ⟨quoteMark :: tail, by simp, ?_, ?_⟩
            · exact ⟨String.toList_ofList.symm, Or.inr ⟨tail, rfl, quotes⟩⟩
            · simp [EndsBefore, beginsWithQuote]
        | some result =>
            obtain ⟨raw, after⟩ := result
            obtain ⟨rfl, isRaw⟩ := splitLiteral_false_eq_some_iff.mp split
            rw [scanFront_literal isRaw] at scanned
            obtain ⟨rfl, rfl⟩ := Prod.mk.inj (Option.some.inj scanned)
            refine ⟨quoteMark :: (raw ++ [quoteMark]), by simp, ?_, trivial⟩
            rw [IsSpelledBy, String.toList_ofList]
            exact ⟨rfl, isRaw⟩
      · cases split : splitSymbol? (first :: tail) with
        | some result =>
            obtain ⟨symbol, after⟩ := result
            rw [scanFront, if_neg isQuote, split] at scanned
            obtain ⟨rfl, rfl⟩ := Prod.mk.inj (Option.some.inj scanned)
            obtain ⟨isSymbol, whole, ends⟩ := endsBefore_of_splitSymbol? split
            exact ⟨_, whole, isSpelledBy_symbol isSymbol, ends⟩
        | none =>
            have goesOn : continuesWord first tail = true :=
              continuesWord_eq_true_iff.mpr ⟨notBlank first rfl,
                (splitSymbol?_cons_eq_none_iff isQuote).mp split⟩
            rw [scanFront_word isQuote goesOn] at scanned
            obtain ⟨rfl, rfl⟩ := Prod.mk.inj (Option.some.inj scanned)
            obtain ⟨inWord, ends⟩ : IsWordPart (splitWord (first :: tail)).1 ∧
                WordEnds (splitWord (first :: tail)).1 (splitWord (first :: tail)).2 :=
              wordEnds_of_splitWord rfl
            refine ⟨_, (splitWord_append (first :: tail)).symm, ?_, ?_⟩
            · refine isSpelledBy_ofWord ?_ inWord
              rw [splitWord, if_pos goesOn]
              exact List.cons_ne_nil _ _
            · exact (endsBefore_ofWord_iff inWord).mpr ends

end Token

end SqlDialect
