import Mathlib.Data.List.TakeWhile
import SqlDialect.Proofs.Spelling.Front

/-!
# Reading a whole text

The tokens of a text are the ones that it spells, and there are no others:
`tokensOf_eq_iff_spells`.

Reading goes from token to token, so it needs to know of each token that it ends
before what follows it (`SpelledToken.EachEnds`). The rules of spelling look at
neighbours only. `SpelledToken.eachEnds_iff` says that the two come to the same,
since the first characters of a spelling tell whether a token before it would go
on into it.
-/

namespace SqlDialect

/-! ## The first characters of a spelling -/

namespace Token

/-- Every token has a spelling of at least one character, which is not blank. -/
theorem head?_of_isSpelledBy
    {token : Token}
    {letters : List Char}
    (spelled : token.IsSpelledBy letters) :
    ∃ first tail, letters = first :: tail ∧ isBlank first = false := by
  cases token with
  | literal raw => exact ⟨_, _, spelled.1, by decide⟩
  | ident word =>
      obtain ⟨rfl, bare | ⟨after, opened, -⟩⟩ := spelled
      · obtain ⟨first, tail, split⟩ := List.exists_cons_of_ne_nil bare.nonempty
        refine ⟨first, tail, split, bare.noBlank first ?_⟩
        rw [split]
        exact List.mem_cons_self
      · exact ⟨_, _, opened, by decide⟩
  | keyword reserved =>
      obtain ⟨first, tail, split⟩ :=
        List.exists_cons_of_ne_nil (ne_nil_of_spelled spelled)
      refine ⟨first, tail, split, ?_⟩
      refine (inWord_of_isAlpha (isAlpha_of_spelled spelled first ?_)).1
      rw [split]
      exact List.mem_cons_self
  | _ =>
      rw [show letters = _ from spelled]
      exact ⟨_, _, rfl, by decide⟩

/-- A spelling that ends before the rest goes on with a word before it exactly if
it spells a word itself. -/
theorem wordGoesOn_of_isSpelledBy
    {token : Token}
    {letters rest : List Char}
    (spelled : token.IsSpelledBy letters)
    (ends : token.EndsBefore rest) :
    wordGoesOn (letters ++ rest) = token.isWord := by
  have ofWordEnds (inWord : IsWordPart letters) (nonempty : letters ≠ [])
      (wordEnds : WordEnds letters rest) : wordGoesOn (letters ++ rest) = true := by
    obtain ⟨first, tail, rfl⟩ := List.exists_cons_of_ne_nil nonempty
    exact continuesWord_of_wordEnds inWord wordEnds
  have ofQuote (tail : List Char) : wordGoesOn (quoteMark :: tail) = false := by
    simp [continuesWord, isDelimiter]
  cases token with
  | literal raw =>
      rw [spelled.1]
      exact ofQuote _
  | ident word =>
      obtain ⟨rfl, bare | ⟨after, opened, -⟩⟩ := spelled
      · have notQuote := beginsWithQuote_of_isWordPart bare.isWordPart
        rw [String.ofList_toList] at notQuote
        simp only [EndsBefore, notQuote, Bool.false_eq_true, if_false] at ends
        rw [ofWordEnds bare.isWordPart bare.nonempty ends, isWord, notQuote]
        rfl
      · have isQuote : beginsWithQuote word = true := by
          simp [beginsWithQuote, opened]
        rw [opened, isWord, isQuote]
        exact ofQuote _
  | keyword reserved =>
      have inWord := isWordPart_of_spelled spelled
      refine ofWordEnds inWord (ne_nil_of_spelled spelled) ?_
      rw [← endsBefore_ofWord_iff inWord, ofWord_of_spelled spelled]
      exact ends
  | _ =>
      rw [show letters = _ from spelled]
      simp [Token.text, isWord, continuesWord, isDelimiter]

/-- Only an equals sign has a spelling that begins with one. -/
theorem head?_eq_equal_iff_of_isSpelledBy
    {token : Token}
    {letters rest : List Char}
    (spelled : token.IsSpelledBy letters) :
    (letters ++ rest).head? = some '=' ↔ token = equal := by
  have ofWordPart (inWord : IsWordPart letters) (nonempty : letters ≠ []) :
      (letters ++ rest).head? ≠ some '=' := by
    obtain ⟨first, tail, rfl⟩ := List.exists_cons_of_ne_nil nonempty
    intro sign
    obtain rfl : first = '=' := Option.some.inj sign
    exact absurd (inWord '=' List.mem_cons_self).2 (by decide)
  cases token with
  | literal raw =>
      rw [spelled.1]
      simp [quoteMark]
  | ident word =>
      obtain ⟨rfl, bare | ⟨after, opened, -⟩⟩ := spelled
      · simpa using ofWordPart bare.isWordPart bare.nonempty
      · rw [opened]
        simp [quoteMark]
  | keyword reserved =>
      simpa using ofWordPart (isWordPart_of_spelled spelled) (ne_nil_of_spelled spelled)
  | _ =>
      rw [show letters = _ from spelled]
      simp [Token.text]

/-- A spelled token is read where it ends, with the blanks before it. -/
theorem scanAll_append_of_isSpelledBy
    {token : Token}
    {front letters rest : List Char}
    (blank : ∀ character ∈ front, isBlank character = true)
    (spelled : token.IsSpelledBy letters)
    (ends : token.EndsBefore rest) :
    scanAll (front ++ (letters ++ rest)) = token :: scanAll rest := by
  apply scanAll_of_scan?_eq_some
  have dropped : dropBlanks (front ++ (letters ++ rest)) = letters ++ rest := by
    obtain ⟨first, tail, rfl, notBlank⟩ := head?_of_isSpelledBy spelled
    rw [dropBlanks, List.dropWhile_append_of_pos blank, List.cons_append,
      List.dropWhile_cons_of_neg (by simp [notBlank])]
  rw [scan?, dropped]
  exact scanFront_of_isSpelledBy spelled ends

/-! ## Neighbours -/

/-- Nothing follows every token that is read last. -/
theorem endsBefore_nil (token : Token) : token.EndsBefore [] := by
  cases token <;> simp [EndsBefore, WordEnds]

/-- A blank ends every token but a quote without an end. -/
theorem endsBefore_cons_of_isBlank_iff
    {token : Token}
    {first : Char}
    {rest : List Char}
    (blank : isBlank first = true) :
    token.EndsBefore (first :: rest) ↔ token.isUnclosed = false := by
  have noSign : first ≠ '=' := by
    rintro rfl
    exact absurd blank (by decide)
  cases token with
  | ident word =>
      cases isQuote : beginsWithQuote word <;>
        simp [EndsBefore, isUnclosed, isQuote, WordEnds, continuesWord, blank, noSign]
  | _ => simp [EndsBefore, isUnclosed, continuesWord, blank, noSign]

/-- A token ends before the spelling of another one exactly if the two need no
gap and the first one is no quote without an end. -/
theorem endsBefore_spelling_iff
    {left right : Token}
    {letters rest : List Char}
    (spelled : right.IsSpelledBy letters)
    (ends : right.EndsBefore rest) :
    left.EndsBefore (letters ++ rest) ↔
      left.isUnclosed = false ∧ ¬left.NeedsGap right := by
  have goesOn := wordGoesOn_of_isSpelledBy spelled ends
  have sign := @head?_eq_equal_iff_of_isSpelledBy right letters rest spelled
  have nonempty : letters ++ rest ≠ [] := by
    obtain ⟨first, tail, rfl, -⟩ := head?_of_isSpelledBy spelled
    exact List.cons_ne_nil _ _
  unfold NeedsGap
  generalize letters ++ rest = text at goesOn sign nonempty ⊢
  generalize right.isWord = rightIsWord at goesOn ⊢
  cases left with
  | ident word =>
      cases isQuote : beginsWithQuote word with
      | true => simp [EndsBefore, isUnclosed, isQuote, nonempty]
      | false =>
          simp [EndsBefore, isUnclosed, isQuote, WordEnds, goesOn, sign, isWord,
            endsInExclamation]
  | lessThan | greaterThan =>
      simp [EndsBefore, isUnclosed, sign, isWord, endsInExclamation]
  | _ => simp [EndsBefore, isUnclosed, goesOn, isWord, endsInExclamation]

end Token

/-! ## Pieces of a text -/

namespace SpelledToken

/-- Whether each token ends before what follows it. -/
def EachEnds : List SpelledToken → Prop
  | [] => True
  | piece :: pieces =>
      piece.token.EndsBefore (piece.gap ++ pieces.flatMap text) ∧ EachEnds pieces

/-- The last token ends before its gap if it may come last with it. -/
theorem endsBefore_gap_iff (piece : SpelledToken) :
    piece.token.EndsBefore piece.gap ↔ piece.MayFinish := by
  unfold MayFinish
  have gapBlank := piece.gapBlank
  cases gap : piece.gap with
  | nil => simp [Token.endsBefore_nil]
  | cons first rest =>
      rw [gap] at gapBlank
      rw [Token.endsBefore_cons_of_isBlank_iff (gapBlank first List.mem_cons_self)]
      simp

/-- Whether a token ends before the next one is settled by the gap between the two. -/
theorem endsBefore_gap_append_iff
    {left right : SpelledToken}
    {rest : List Char}
    (ends : right.token.EndsBefore rest) :
    left.token.EndsBefore (left.gap ++ (right.letters ++ rest)) ↔
      left.MayPrecede right := by
  unfold MayPrecede
  have gapBlank := left.gapBlank
  cases gap : left.gap with
  | nil =>
      rw [List.nil_append, Token.endsBefore_spelling_iff right.spelled ends]
      simp
  | cons first tail =>
      rw [gap] at gapBlank
      rw [List.cons_append,
        Token.endsBefore_cons_of_isBlank_iff (gapBlank first List.mem_cons_self)]
      simp

/-- Each token ends before what follows it exactly if neighbours may stand next
to each other and the last token may stand last. -/
theorem eachEnds_iff (pieces : List SpelledToken) :
    EachEnds pieces ↔
      pieces.IsChain MayPrecede ∧ ∀ last ∈ pieces.getLast?, last.MayFinish := by
  induction pieces with
  | nil => simp [EachEnds]
  | cons left pieces inductionHypothesis =>
      cases pieces with
      | nil => simp [EachEnds, endsBefore_gap_iff]
      | cons right pieces =>
          have rightEnds (ends : EachEnds (right :: pieces)) :
              right.token.EndsBefore (right.gap ++ pieces.flatMap text) := ends.1
          have whole : (right :: pieces).flatMap text =
              right.letters ++ (right.gap ++ pieces.flatMap text) := by
            rw [List.flatMap_cons, text, List.append_assoc]
          rw [EachEnds, List.isChain_cons_cons, List.getLast?_cons_cons, and_assoc,
            ← inductionHypothesis, whole]
          exact and_congr_left fun ends =>
            endsBefore_gap_append_iff (rightEnds ends)

/-! ## Reading pieces -/

/-- Pieces that each end before what follows are read one after the other. -/
theorem scanAll_of_eachEnds
    {front : List Char}
    {pieces : List SpelledToken}
    (blank : ∀ character ∈ front, isBlank character = true)
    (ends : EachEnds pieces) :
    Token.scanAll (front ++ pieces.flatMap text) = pieces.map token := by
  induction pieces generalizing front with
  | nil =>
      apply Token.scanAll_of_scan?_eq_none
      rw [Token.scan?, dropBlanks, List.flatMap_nil,
        List.dropWhile_append_of_pos blank]
      rfl
  | cons piece pieces inductionHypothesis =>
      rw [List.flatMap_cons, text, List.append_assoc,
        Token.scanAll_append_of_isSpelledBy blank piece.spelled ends.1,
        inductionHypothesis piece.gapBlank ends.2, List.map_cons]

theorem isBlank_head?_dropBlanks (characters : List Char) :
    ∀ first ∈ (dropBlanks characters).head?, isBlank first = false := by
  intro first member
  have notBlank := List.head?_dropWhile_not isBlank characters
  rw [dropBlanks] at member
  rw [Option.mem_def.mp member] at notBlank
  exact notBlank

/-- Every text is made of pieces that each end before what follows. -/
theorem exists_eachEnds (characters : List Char) :
    ∃ (front : List Char) (pieces : List SpelledToken),
      characters = front ++ pieces.flatMap text ∧
        pieces.map token = Token.scanAll characters ∧
        (∀ character ∈ front, isBlank character = true) ∧
        EachEnds pieces := by
  induction characters using Token.scanAll.induct with
  | case1 characters scanned =>
      have allBlank := Token.scanFront_eq_none_iff.mp scanned
      refine ⟨characters, [], by simp, ?_, List.dropWhile_eq_nil_iff.mp allBlank,
        trivial⟩
      rw [Token.scanAll_of_scan?_eq_none scanned, List.map_nil]
  | case2 characters token rest scanned inductionHypothesis =>
      obtain ⟨letters, whole, spelled, ends⟩ := Token.isSpelledBy_of_scanFront
        (isBlank_head?_dropBlanks characters) scanned
      obtain ⟨gap, pieces, restWhole, restTokens, gapBlank, restEnds⟩ :=
        inductionHypothesis
      refine ⟨characters.takeWhile isBlank,
        ⟨token, letters, gap, spelled, gapBlank⟩ :: pieces, ?_, ?_, ?_, ?_, restEnds⟩
      · rw [List.flatMap_cons, text, List.append_assoc, ← restWhole, ← whole,
          dropBlanks, List.takeWhile_append_dropWhile]
      · rw [List.map_cons, restTokens, Token.scanAll_of_scan?_eq_some scanned]
      · exact fun character member => List.mem_takeWhile_imp member
      · rw [← restWhole]
        exact ends

end SpelledToken

/-- A text spells the tokens that are read off it. -/
theorem spells_scanAll (characters : List Char) :
    Spells characters (Token.scanAll characters) := by
  obtain ⟨front, pieces, whole, tokens, blank, ends⟩ :=
    SpelledToken.exists_eachEnds characters
  exact ⟨front, pieces, whole, tokens, blank,
    (SpelledToken.eachEnds_iff pieces).mp ends⟩

/-- The tokens that a text spells are read off it. -/
theorem scanAll_of_spells
    {characters : List Char}
    {tokens : List Token}
    (spelled : Spells characters tokens) :
    Token.scanAll characters = tokens := by
  obtain ⟨front, pieces, rfl, rfl, blank, chain, last⟩ := spelled
  exact SpelledToken.scanAll_of_eachEnds blank
    ((SpelledToken.eachEnds_iff pieces).mpr ⟨chain, last⟩)

/-! ## Tokens of a text -/

/-- Whether each of some tokens can be spelled. -/
def AllSpelled (tokens : List Token) : Prop :=
  ∀ token ∈ tokens, ∃ letters, token.IsSpelledBy letters

@[simp] theorem allSpelled_nil : AllSpelled [] := by
  simp [AllSpelled]

@[simp] theorem allSpelled_cons
    {token : Token}
    {tokens : List Token} :
    AllSpelled (token :: tokens) ↔
      (∃ letters, token.IsSpelledBy letters) ∧ AllSpelled tokens :=
  List.forall_mem_cons

@[simp] theorem allSpelled_append
    {front back : List Token} :
    AllSpelled (front ++ back) ↔ AllSpelled front ∧ AllSpelled back :=
  List.forall_mem_append

/-- All tokens of a text have a spelling. -/
theorem allSpelled_tokensOf (text : String) : AllSpelled (tokensOf text) := by
  obtain ⟨front, pieces, -, tokens, -⟩ := spells_scanAll text.toList
  intro token member
  rw [tokensOf, ← tokens] at member
  obtain ⟨piece, -, rfl⟩ := List.mem_map.mp member
  exact ⟨piece.letters, piece.spelled⟩

/-- A name that can be spelled is a bare word. -/
theorem isBareWord_of_isSpelledBy
    {name : String}
    {letters : List Char}
    (spelled : (Token.ident name).IsSpelledBy letters)
    (noQuote : beginsWithQuote name = false) :
    IsBareWord name.toList := by
  obtain ⟨rfl, bare | ⟨rest, opened, -⟩⟩ := spelled
  · exact bare
  · simp [beginsWithQuote, opened] at noQuote

/-- The tokens of a text are those that it spells, and no others. -/
theorem tokensOf_eq_iff_spells (text : String) (tokens : List Token) :
    tokensOf text = tokens ↔ Spells text.toList tokens := by
  constructor
  · rintro rfl
    exact spells_scanAll text.toList
  · exact scanAll_of_spells

end SqlDialect
