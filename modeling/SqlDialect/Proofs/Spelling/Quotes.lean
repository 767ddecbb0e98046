import SqlDialect.Proofs.Spelling.Resumption

/-!
# Open quotes in one pass

Whether a text ends inside a quote is told by an automaton that goes through the
characters once and knows nothing of tokens. Outside of literals it only looks for a
quote. Inside of one it remembers the character before, because a quote directly
after a backslash does not close the literal. The opening quote is no character of
the literal, so nothing is remembered right after it.

The automaton agrees with the tokens because it stands outside of literals wherever a
token begins (`QuoteState.after_outside_of_isSpelledBy`), and only a quote without an
end leaves it inside.
-/

namespace SqlDialect

/-- Where a pass through a text stands: outside of literals, or inside of one, after
some character of it or none. -/
inductive QuoteState
  | outside
  | inside (before : Option Char)
  deriving DecidableEq

namespace QuoteState

/-- Go on with one character. -/
def next : QuoteState → Char → QuoteState
  | outside, character =>
      if character = quoteMark then inside none else outside
  | inside before, character =>
      if character = quoteMark ∧ before ≠ some escapeMark then
        outside
      else
        inside (some character)

/-- Go on with the characters of a text. -/
def after (state : QuoteState) (letters : List Char) : QuoteState :=
  letters.foldl next state

@[simp] theorem after_nil (state : QuoteState) : state.after [] = state := rfl

@[simp] theorem after_cons
    (state : QuoteState)
    (letter : Char)
    (letters : List Char) :
    state.after (letter :: letters) = (state.next letter).after letters := rfl

/-- Where a text ends is told by where its front does, and by the rest alone. -/
theorem after_append
    (state : QuoteState)
    (front back : List Char) :
    state.after (front ++ back) = (state.after front).after back :=
  List.foldl_append

/-! ## Parts of a text -/

/-- Without a quote the automaton stays outside. -/
theorem after_outside_of_noQuote
    {letters : List Char}
    (noQuote : quoteMark ∉ letters) :
    outside.after letters = outside := by
  induction letters with
  | nil => rfl
  | cons letter letters inductionHypothesis =>
      rw [List.mem_cons, not_or] at noQuote
      rw [after_cons, next, if_neg (Ne.symm noQuote.1)]
      exact inductionHypothesis noQuote.2

theorem after_outside_of_isBlank
    {letters : List Char}
    (blank : ∀ letter ∈ letters, isBlank letter = true) :
    outside.after letters = outside := by
  apply after_outside_of_noQuote
  intro member
  exact absurd (blank quoteMark member) (by decide)

/-- Outside of quotes no letter of a word leads into one. -/
theorem after_outside_of_isWordPart
    {letters : List Char}
    (inWord : IsWordPart letters) :
    outside.after letters = outside := by
  apply after_outside_of_noQuote
  intro member
  exact absurd (inWord quoteMark member).2 (by decide)

/-- Letters that leave the quotes of a literal protected leave the automaton inside,
after the last letter of the literal so far. -/
theorem after_inside_of_protected
    {letters : List Char}
    (seen : List Char)
    (quotes : QuotesProtected (seen ++ letters)) :
    (inside seen.getLast?).after letters = inside (seen ++ letters).getLast? := by
  induction letters generalizing seen with
  | nil => rw [after_nil, List.append_nil]
  | cons letter letters inductionHypothesis =>
      rw [List.append_cons] at quotes ⊢
      have protectedHere := (quotesProtected_concat_iff.mp quotes.of_append).2
      have staysInside : (inside seen.getLast?).next letter =
          inside (seen ++ [letter]).getLast? := by
        rw [next, if_neg fun closing => closing.2 (protectedHere closing.1),
          List.getLast?_concat]
      rw [after_cons, staysInside, inductionHypothesis _ quotes]

/-- A quote without an end leaves the automaton inside. -/
theorem after_outside_of_isOpenQuote
    {letters : List Char}
    (opened : IsOpenQuote letters) :
    ∃ before, outside.after letters = inside before := by
  obtain ⟨rest, rfl, quotes⟩ := opened
  exact ⟨rest.getLast?, after_inside_of_protected [] quotes⟩

/-- A literal with its quotes leaves the automaton outside again. -/
theorem after_outside_of_isRawLiteral
    {raw : List Char}
    (isRaw : IsRawLiteral raw) :
    outside.after (quoteMark :: (raw ++ [quoteMark])) = outside := by
  have insideRaw : (inside none).after raw = inside raw.getLast? :=
    after_inside_of_protected [] isRaw.1
  rw [after_cons, next, if_pos rfl, after_append, insideRaw, after_cons, after_nil, next,
    if_pos ⟨rfl, isRaw.2⟩]

/-- A token that is no quote without an end leaves the automaton outside. -/
theorem after_outside_of_isSpelledBy
    {token : Token}
    {letters : List Char}
    (spelled : token.IsSpelledBy letters)
    (closed : token.isUnclosed = false) :
    outside.after letters = outside := by
  cases token with
  | literal raw =>
      obtain ⟨rfl, isRaw⟩ := spelled
      exact after_outside_of_isRawLiteral isRaw
  | ident word =>
      obtain ⟨rfl, bare | ⟨rest, opened, -⟩⟩ := spelled
      · exact after_outside_of_isWordPart bare.isWordPart
      · simp [Token.isUnclosed, beginsWithQuote, opened] at closed
  | keyword reserved => exact after_outside_of_isWordPart (isWordPart_of_spelled spelled)
  | _ =>
      rw [show letters = _ from spelled]
      decide

/-- Tokens with gaps between them leave the automaton inside exactly if the last one
is a quote without an end. -/
theorem after_outside_pieces_iff
    {pieces : List SpelledToken}
    (ends : SpelledToken.EachEnds pieces) :
    (∃ before, outside.after (pieces.flatMap SpelledToken.text) = inside before) ↔
      ∃ last ∈ (pieces.map SpelledToken.token).getLast?, last.isUnclosed = true := by
  induction pieces with
  | nil => simp
  | cons piece pieces inductionHypothesis =>
      -- Every piece but the last one is closed, and leaves the automaton as it was.
      have passed (closed : piece.token.isUnclosed = false) :
          outside.after piece.text = outside := by
        rw [SpelledToken.text, after_append,
          after_outside_of_isSpelledBy piece.spelled closed,
          after_outside_of_isBlank piece.gapBlank]
      cases pieces with
      | nil =>
          rw [List.flatMap_singleton, List.map_singleton, List.getLast?_singleton]
          cases unclosed : piece.token.isUnclosed with
          | false => simp [passed unclosed, unclosed]
          | true =>
              have noGap : piece.gap = [] :=
                piece.endsBefore_gap_iff.mp (by simpa using ends.1) unclosed
              have opened := Token.isOpenQuote_of_isSpelledBy piece.spelled unclosed
              rw [SpelledToken.text, noGap, List.append_nil]
              simp [after_outside_of_isOpenQuote opened, unclosed]
      | cons next pieces =>
          have sameLast : ((piece :: next :: pieces).map SpelledToken.token).getLast? =
              ((next :: pieces).map SpelledToken.token).getLast? :=
            List.getLast?_cons_cons
          rw [List.flatMap_cons, after_append, passed ends.isUnclosed_head_eq_false,
            inductionHypothesis ends.2, sameLast]

end QuoteState

/-- A text ends inside a quote exactly if a pass through its characters does. -/
theorem endsInsideQuote_iff_after (text : String) :
    endsInsideQuote text = true ↔
      ∃ before, QuoteState.outside.after text.toList = .inside before := by
  obtain ⟨front, pieces, whole, tokens, blank, ends⟩ :=
    SpelledToken.exists_eachEnds text.toList
  rw [endsInsideQuote_eq_true_iff, tokensOf, ← tokens, whole, QuoteState.after_append,
    QuoteState.after_outside_of_isBlank blank, QuoteState.after_outside_pieces_iff ends]

/-- Outside of literals a backslash protects nothing, and inside of them each quote
directly after one is protected. -/
example :
    QuoteState.outside.after "\\'it\\'s\\\\'".toList = .inside (some quoteMark) := by
  decide

end SqlDialect
