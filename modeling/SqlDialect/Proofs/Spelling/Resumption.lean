import SqlDialect.Proofs.Spelling.Text

/-!
# Reading on from a cut

A text may be cut in two, and each part read by itself. After a blank that stands
outside of quotes the second part is read as if it stood alone
(`scanAll_append_blank`). Where the first part ends inside a quote, what was read
there is read again, together with the second part (`scanAll_append_of_openQuote`).
Both come from one fact: the tokens of the first part are read before every text
that each of them ends before (`SpelledToken.scanAll_append`).

The main statement `tokensOf_append` says it of every text and every cut.

The cuts that occur most are those between a text and the blanks at its ends.
-/

namespace SqlDialect

/-! ## Tokens before a longer text -/

theorem wordGoesOn_append
    {front : List Char}
    (nonempty : front ≠ [])
    (stops : wordGoesOn front = false)
    (back : List Char) :
    wordGoesOn (front ++ back) = false := by
  cases front with
  | nil => exact absurd rfl nonempty
  | cons first rest =>
      rw [List.cons_append, wordGoesOn_cons]
      rw [wordGoesOn_cons] at stops
      by_contra goesOn
      rw [Bool.not_eq_false] at goesOn
      obtain ⟨notBlank, notDelimiter, noSign⟩ := continuesWord_eq_true_iff.mp goesOn
      have restNoSign : first = '!' → rest.head? ≠ some '=' := by
        intro mark sign
        exact noSign mark (by rw [List.head?_append, sign]; rfl)
      have goesOnAlone : continuesWord first rest = true :=
        continuesWord_eq_true_iff.mpr ⟨notBlank, notDelimiter, restNoSign⟩
      rw [stops] at goesOnAlone
      cases goesOnAlone

/-- Where a word ends is settled by a front that is not empty. -/
theorem WordEnds.append
    {word front : List Char}
    (nonempty : front ≠ [])
    (ends : WordEnds word front)
    (back : List Char) :
    WordEnds word (front ++ back) := by
  refine ⟨wordGoesOn_append nonempty ends.1 back, fun mark => ?_⟩
  rw [List.head?_append_of_ne_nil _ nonempty]
  exact ends.2 mark

namespace Token

/-- Where a token ends is told by the text right after it. -/
theorem EndsBefore.append
    {token : Token}
    {front : List Char}
    (nonempty : front ≠ [])
    (ends : token.EndsBefore front)
    (back : List Char) :
    token.EndsBefore (front ++ back) := by
  cases token with
  | ident word =>
      cases isQuote : beginsWithQuote word with
      | true =>
          rw [EndsBefore, if_pos isQuote] at ends
          exact absurd ends nonempty
      | false =>
          rw [EndsBefore, if_neg (by simp [isQuote])] at ends ⊢
          exact ends.append nonempty back
  | keyword reserved => exact wordGoesOn_append nonempty ends back
  | lessThan | greaterThan =>
      rw [EndsBefore, List.head?_append_of_ne_nil _ nonempty]
      exact ends
  | _ => trivial

/-- Only nothing follows a quote without an end. -/
theorem isUnclosed_of_endsBefore
    {token : Token}
    {rest : List Char}
    (nonempty : rest ≠ [])
    (ends : token.EndsBefore rest) :
    token.isUnclosed = false := by
  cases token with
  | ident word =>
      cases isQuote : beginsWithQuote word with
      | true =>
          rw [EndsBefore, if_pos isQuote] at ends
          exact absurd ends nonempty
      | false => exact isQuote
  | _ => rfl

/-- Blanks before a text are passed over. -/
theorem scanAll_append_of_isBlank
    {front : List Char}
    (blank : ∀ character ∈ front, isBlank character = true)
    (rest : List Char) :
    scanAll (front ++ rest) = scanAll rest := by
  have same : scan? (front ++ rest) = scan? rest := by
    rw [scan?, scan?, dropBlanks, List.dropWhile_append_of_pos blank, dropBlanks]
  cases scanned : scan? rest with
  | none =>
      rw [scanAll_of_scan?_eq_none scanned]
      exact scanAll_of_scan?_eq_none (same.trans scanned)
  | some result =>
      obtain ⟨token, after⟩ := result
      rw [scanAll_of_scan?_eq_some scanned]
      exact scanAll_of_scan?_eq_some (same.trans scanned)

/-- A quote without an end is one token. -/
theorem scanAll_of_isOpenQuote
    {letters : List Char}
    (opened : IsOpenQuote letters) :
    scanAll letters = [ident (String.ofList letters)] := by
  obtain ⟨rest, rfl, quotes⟩ := opened
  have scanned : scan? (quoteMark :: rest) =
      some (ident (String.ofList (quoteMark :: rest)), []) := by
    rw [scan?, dropBlanks, List.dropWhile_cons_of_neg (by decide)]
    exact scanFront_openQuote quotes
  rw [scanAll_of_scan?_eq_some scanned, scanAll_of_scan?_eq_none rfl]

end Token

/-! ## Pieces before a longer text -/

namespace SpelledToken

/-- Whether each token ends before what follows it, with some text after the last
one. -/
def EachEndsBefore (rest : List Char) : List SpelledToken → Prop
  | [] => True
  | piece :: pieces =>
      piece.token.EndsBefore (piece.gap ++ (pieces.flatMap text ++ rest)) ∧
        EachEndsBefore rest pieces

theorem eachEndsBefore_nil_iff (pieces : List SpelledToken) :
    EachEndsBefore [] pieces ↔ EachEnds pieces := by
  induction pieces with
  | nil => exact Iff.rfl
  | cons piece pieces inductionHypothesis =>
      rw [EachEndsBefore, EachEnds, List.append_nil, inductionHypothesis]

/-- Pieces in a row each end where they should if those at the front do before those at
the back. -/
theorem eachEndsBefore_append_iff
    (rest : List Char)
    (front back : List SpelledToken) :
    EachEndsBefore rest (front ++ back) ↔
      EachEndsBefore (back.flatMap text ++ rest) front ∧ EachEndsBefore rest back := by
  induction front with
  | nil => simp [EachEndsBefore]
  | cons piece front inductionHypothesis =>
      rw [List.cons_append, EachEndsBefore, EachEndsBefore, inductionHypothesis,
        List.flatMap_append, List.append_assoc, and_assoc]

/-- Where tokens end is told by the text right after them. -/
theorem EachEndsBefore.append
    {rest : List Char}
    {pieces : List SpelledToken}
    (nonempty : rest ≠ [])
    (ends : EachEndsBefore rest pieces)
    (back : List Char) :
    EachEndsBefore (rest ++ back) pieces := by
  induction pieces with
  | nil => trivial
  | cons piece pieces inductionHypothesis =>
      refine ⟨?_, inductionHypothesis ends.2⟩
      have follows : piece.gap ++ (pieces.flatMap text ++ rest) ≠ [] := by
        simp [nonempty]
      have pieceEnds := ends.1.append follows back
      simpa only [List.append_assoc] using pieceEnds

/-- Tokens that would all end before a text end before it where they stand. -/
theorem EachEnds.eachEndsBefore
    {pieces : List SpelledToken}
    (ends : EachEnds pieces)
    {rest : List Char}
    (endBeforeRest : ∀ piece ∈ pieces, piece.token.EndsBefore rest) :
    EachEndsBefore rest pieces := by
  induction pieces with
  | nil => trivial
  | cons piece pieces inductionHypothesis =>
      obtain ⟨pieceEnds, othersEnd⟩ := List.forall_mem_cons.mp endBeforeRest
      refine ⟨?_, inductionHypothesis ends.2 othersEnd⟩
      rw [← List.append_assoc]
      by_cases last : piece.gap ++ pieces.flatMap text = []
      · rw [last, List.nil_append]
        exact pieceEnds
      · exact ends.1.append last rest

/-- A token that another one follows is no quote without an end. -/
theorem EachEnds.isUnclosed_head_eq_false
    {piece next : SpelledToken}
    {pieces : List SpelledToken}
    (ends : EachEnds (piece :: next :: pieces)) :
    piece.token.isUnclosed = false := by
  apply Token.isUnclosed_of_endsBefore _ ends.1
  obtain ⟨first, tail, letters, -⟩ := Token.head?_of_isSpelledBy next.spelled
  simp [text, letters]

/-- Only the last token can be a quote without an end. -/
theorem EachEnds.isUnclosed_eq_false
    {pieces : List SpelledToken}
    (ends : EachEnds pieces)
    (lastClosed : ∀ last ∈ (pieces.map token).getLast?, last.isUnclosed = false) :
    ∀ piece ∈ pieces, piece.token.isUnclosed = false := by
  induction pieces with
  | nil => simp
  | cons piece pieces inductionHypothesis =>
      cases pieces with
      | nil => simpa using lastClosed
      | cons next pieces =>
          rw [List.map_cons, List.map_cons, List.getLast?_cons_cons] at lastClosed
          have others := inductionHypothesis ends.2 lastClosed
          exact List.forall_mem_cons.mpr ⟨ends.isUnclosed_head_eq_false, others⟩

/-- Tokens are read before every text that each of them ends before. -/
theorem scanAll_append
    {front rest : List Char}
    {pieces : List SpelledToken}
    (blank : ∀ character ∈ front, isBlank character = true)
    (ends : EachEndsBefore rest pieces) :
    Token.scanAll (front ++ (pieces.flatMap text ++ rest)) =
      pieces.map token ++ Token.scanAll rest := by
  induction pieces generalizing front with
  | nil =>
      rw [List.flatMap_nil, List.nil_append, List.map_nil, List.nil_append]
      exact Token.scanAll_append_of_isBlank blank rest
  | cons piece pieces inductionHypothesis =>
      rw [List.flatMap_cons, text, List.append_assoc, List.append_assoc,
        Token.scanAll_append_of_isSpelledBy blank piece.spelled ends.1,
        inductionHypothesis piece.gapBlank ends.2, List.map_cons, List.cons_append]

end SpelledToken

/-- A quote without an end is spelled by itself. -/
theorem Token.isOpenQuote_of_isSpelledBy
    {token : Token}
    {letters : List Char}
    (spelled : token.IsSpelledBy letters)
    (unclosed : token.isUnclosed = true) :
    IsOpenQuote letters := by
  cases token with
  | ident word =>
      obtain ⟨rfl, bare | opened⟩ := spelled
      · have noQuote := beginsWithQuote_of_isWordPart bare.isWordPart
        rw [String.ofList_toList] at noQuote
        rw [isUnclosed, noQuote] at unclosed
        cases unclosed
      · exact opened
  | _ => cases unclosed

/-! ## Cuts -/

/-- Only the last token of a text can be a quote without an end. -/
theorem isUnclosed_eq_false_of_mem_scanAll
    {text : List Char}
    (closed : ∀ last ∈ (Token.scanAll text).getLast?, last.isUnclosed = false) :
    ∀ token ∈ Token.scanAll text, token.isUnclosed = false := by
  obtain ⟨gap, pieces, -, tokens, -, ends⟩ := SpelledToken.exists_eachEnds text
  rw [← tokens] at closed ⊢
  exact List.forall_mem_map.mpr (ends.isUnclosed_eq_false closed)

/-- A text is read as if it stood alone before what all its tokens end before. -/
theorem scanAll_append_of_endsBefore
    {front rest : List Char}
    (ends : ∀ token ∈ Token.scanAll front, token.EndsBefore rest) :
    Token.scanAll (front ++ rest) = Token.scanAll front ++ Token.scanAll rest := by
  obtain ⟨gap, pieces, whole, tokens, gapBlank, eachEnds⟩ :=
    SpelledToken.exists_eachEnds front
  rw [← tokens] at ends
  have endsLater := eachEnds.eachEndsBefore (List.forall_mem_map.mp ends)
  rw [← tokens, ← SpelledToken.scanAll_append gapBlank endsLater, whole,
    List.append_assoc]

/-- After a blank outside of quotes a text is read as if it stood alone. -/
theorem scanAll_append_blank
    {front : List Char}
    (closed : ∀ last ∈ (Token.scanAll front).getLast?, last.isUnclosed = false)
    {first : Char}
    (blank : isBlank first = true)
    (rest : List Char) :
    Token.scanAll (front ++ first :: rest) =
      Token.scanAll front ++ Token.scanAll rest := by
  have ends : ∀ token ∈ Token.scanAll front, token.EndsBefore (first :: rest) := by
    intro token member
    rw [Token.endsBefore_cons_of_isBlank_iff blank]
    exact isUnclosed_eq_false_of_mem_scanAll closed token member
  have restAlone : Token.scanAll (first :: rest) = Token.scanAll rest :=
    Token.scanAll_append_of_isBlank (List.forall_mem_singleton.mpr blank) rest
  rw [scanAll_append_of_endsBefore ends, restAlone]

/-- Where a text ends inside a quote, everything after that is read from the quote
on. -/
theorem scanAll_append_of_openQuote
    {front : List Char}
    {last : Token}
    (isLast : last ∈ (Token.scanAll front).getLast?)
    (unclosed : last.isUnclosed = true) :
    ∃ tokens opened,
      IsOpenQuote opened ∧
        opened <:+ front ∧
        ∀ rest, Token.scanAll (front ++ rest) =
          tokens ++ Token.scanAll (opened ++ rest) := by
  obtain ⟨gap, pieces, whole, tokens, gapBlank, ends⟩ :=
    SpelledToken.exists_eachEnds front
  rcases List.eq_nil_or_concat pieces with rfl | ⟨before, piece, rfl⟩
  · rw [← tokens] at isLast
    cases isLast
  · obtain rfl : piece.token = last := by
      rw [← tokens, List.concat_eq_append, List.map_append] at isLast
      simpa using isLast
    rw [List.concat_eq_append, ← SpelledToken.eachEndsBefore_nil_iff,
      SpelledToken.eachEndsBefore_append_iff] at ends
    -- Blanks after an open quote belong to it.
    have noGap : piece.gap = [] := by
      by_contra someGap
      have closed := Token.isUnclosed_of_endsBefore (by simpa using someGap) ends.2.1
      rw [unclosed] at closed
      cases closed
    have opened := Token.isOpenQuote_of_isSpelledBy piece.spelled unclosed
    have lastText : [piece].flatMap SpelledToken.text = piece.letters := by
      simp [SpelledToken.text, noGap]
    rw [lastText, List.append_nil] at ends
    have nonempty : piece.letters ≠ [] := by
      obtain ⟨rest, letters, -⟩ := opened
      simp [letters]
    have isFront : front =
        gap ++ (before.flatMap SpelledToken.text ++ piece.letters) := by
      rw [whole, List.concat_eq_append, List.flatMap_append, lastText]
    refine ⟨before.map SpelledToken.token, piece.letters, opened, ?_, fun rest => ?_⟩
    · rw [isFront, ← List.append_assoc]
      exact List.suffix_append _ _
    · rw [isFront, List.append_assoc, List.append_assoc]
      exact SpelledToken.scanAll_append gapBlank (ends.1.append nonempty rest)

/-- A text ends inside a quote exactly if its last token is one without an end. -/
theorem endsInsideQuote_eq_true_iff (text : String) :
    endsInsideQuote text = true ↔
      ∃ last ∈ (tokensOf text).getLast?, last.isUnclosed = true := by
  unfold endsInsideQuote
  cases (tokensOf text).getLast? <;> simp

/-- A text ends outside of quotes exactly if its last token, if there is one, is
closed. -/
theorem endsInsideQuote_eq_false_iff (text : String) :
    endsInsideQuote text = false ↔
      ∀ last ∈ (tokensOf text).getLast?, last.isUnclosed = false := by
  unfold endsInsideQuote
  cases (tokensOf text).getLast? <;> simp

/-- After tokens without an open quote, others tell whether a text ends inside one. -/
theorem endsInsideQuote_eq_of_tokensOf_eq_append
    {text front back : String}
    (tokens : tokensOf text = tokensOf front ++ tokensOf back)
    (closed : endsInsideQuote front = false) :
    endsInsideQuote text = endsInsideQuote back := by
  unfold endsInsideQuote at closed ⊢
  rw [tokens, List.getLast?_append]
  cases (tokensOf back).getLast? with
  | none => exact closed
  | some last => rfl

/-- Reading can go on after every cut: after a blank outside of quotes with what
comes after it, and otherwise again from the quote in which the text was cut. -/
theorem tokensOf_append (front back : String) :
    (endsInsideQuote front = false → ∀ character, isBlank character = true →
      tokensOf (front.push character ++ back) = tokensOf front ++ tokensOf back ∧
        endsInsideQuote (front.push character ++ back) = endsInsideQuote back) ∧
    (endsInsideQuote front = true →
      ∃ opened,
        (tokensOf front).getLast? = some (.ident opened) ∧
          opened.toList <:+ front.toList ∧
          tokensOf (front ++ back) =
            (tokensOf front).dropLast ++ tokensOf (opened ++ back)) := by
  constructor
  · intro closed character blank
    have tokens : tokensOf (front.push character ++ back) =
        tokensOf front ++ tokensOf back := by
      have cut := scanAll_append_blank ((endsInsideQuote_eq_false_iff front).mp closed)
        blank back.toList
      simpa [tokensOf] using cut
    exact ⟨tokens, endsInsideQuote_eq_of_tokensOf_eq_append tokens closed⟩
  · intro insideQuote
    obtain ⟨last, isLast, unclosed⟩ := (endsInsideQuote_eq_true_iff front).mp insideQuote
    obtain ⟨tokens, opened, isOpen, isSuffix, reads⟩ :=
      scanAll_append_of_openQuote isLast unclosed
    have alone : tokensOf front = tokens ++ [.ident (String.ofList opened)] := by
      have readsAlone := reads []
      rwa [List.append_nil, List.append_nil, Token.scanAll_of_isOpenQuote isOpen]
        at readsAlone
    refine ⟨String.ofList opened, ?_, ?_, ?_⟩
    · rw [alone, List.getLast?_concat]
    · rwa [String.toList_ofList]
    · rw [alone, List.dropLast_concat, tokensOf, tokensOf, String.toList_append,
        String.toList_append, String.toList_ofList, reads]

/-- A cut at an ideographic space, before what would go on with the symbol there, and
one after a backslash in a literal. -/
theorem tokensOf_append_escapedQuote :
    (endsInsideQuote "a<" = false ∧ isBlank '\u3000' = true ∧
      tokensOf ("a<".push '\u3000' ++ "='it") = tokensOf "a<" ++ tokensOf "='it" ∧
        endsInsideQuote ("a<".push '\u3000' ++ "='it") = endsInsideQuote "='it") ∧
    endsInsideQuote "a='it\\" = true ∧
      ∃ opened,
        (tokensOf "a='it\\").getLast? = some (.ident opened) ∧
          opened.toList <:+ "a='it\\".toList ∧
          tokensOf ("a='it\\" ++ "'s'b") =
            (tokensOf "a='it\\").dropLast ++ tokensOf (opened ++ "'s'b") := by
  have closed : endsInsideQuote "a<" = false := by decide +kernel
  have blank : isBlank '\u3000' = true := by decide
  have insideQuote : endsInsideQuote "a='it\\" = true := by decide +kernel
  exact ⟨⟨closed, blank, (tokensOf_append _ _).1 closed _ blank⟩,
    insideQuote, (tokensOf_append _ _).2 insideQuote⟩

/-! ## After an open quote -/

theorem QuotesProtected.append
    {letters back : List Char}
    (quotes : QuotesProtected letters)
    (noQuote : quoteMark ∉ back) :
    QuotesProtected (letters ++ back) := by
  induction back using List.reverseRecOn with
  | nil => rwa [List.append_nil]
  | append_singleton back letter inductionHypothesis =>
      rw [List.mem_append, not_or] at noQuote
      rw [← List.append_assoc]
      refine quotesProtected_concat_iff.mpr ⟨inductionHypothesis noQuote.1, ?_⟩
      rintro rfl
      exact absurd (List.mem_singleton_self _) noQuote.2

theorem IsOpenQuote.append
    {letters back : List Char}
    (opened : IsOpenQuote letters)
    (noQuote : quoteMark ∉ back) :
    IsOpenQuote (letters ++ back) := by
  obtain ⟨rest, rfl, quotes⟩ := opened
  exact ⟨rest ++ back, rfl, quotes.append noQuote⟩

/-! ## Blanks at the ends of a text -/

/-- What is trimmed off the ends of a text is blank. -/
theorem exists_append_trimBlanks (text : List Char) :
    ∃ front back,
      text = front ++ (trimBlanks text ++ back) ∧
        (∀ character ∈ front, isBlank character = true) ∧
        ∀ character ∈ back, isBlank character = true := by
  let reversed := (dropBlanks text).reverse
  refine ⟨text.takeWhile isBlank, (reversed.takeWhile isBlank).reverse, ?_, ?_, ?_⟩
  · rw [trimBlanks, ← List.reverse_append, dropBlanks, List.takeWhile_append_dropWhile,
      List.reverse_reverse, dropBlanks, List.takeWhile_append_dropWhile]
  · exact fun character => List.mem_takeWhile_imp
  · exact fun character member =>
      List.mem_takeWhile_imp (List.mem_reverse.mp member)

/-- Of a text with a character that is not blank something is left. -/
theorem trimBlanks_ne_nil
    {text : List Char}
    (notBlank : isAllBlank text = false) :
    trimBlanks text ≠ [] := by
  intro trimmed
  obtain ⟨front, back, whole, frontBlank, backBlank⟩ := exists_append_trimBlanks text
  have allBlank : isAllBlank text = true := by
    rw [whole, trimmed]
    exact List.all_eq_true.mpr (List.forall_mem_append.mpr ⟨frontBlank, backBlank⟩)
  rw [notBlank] at allBlank
  cases allBlank

/-- Blanks at the end of a text are trimmed off. -/
theorem trimBlanks_append_of_isBlank
    {back : List Char}
    (blank : ∀ character ∈ back, isBlank character = true)
    (text : List Char) :
    trimBlanks (text ++ back) = trimBlanks text := by
  have dropped : dropBlanks (text ++ back) =
      if (dropBlanks text).isEmpty then dropBlanks back else dropBlanks text ++ back :=
    List.dropWhile_append
  rw [trimBlanks, trimBlanks, dropped]
  by_cases noneLeft : (dropBlanks text).isEmpty = true
  · have backDropped : dropBlanks back = [] := List.dropWhile_eq_nil_iff.mpr blank
    rw [if_pos noneLeft, List.isEmpty_iff.mp noneLeft, backDropped]
  · rw [if_neg noneLeft]
    have reverseBlank : ∀ character ∈ back.reverse, isBlank character = true :=
      fun character member => blank character (List.mem_reverse.mp member)
    have reverseDropped :
        dropBlanks (back.reverse ++ (dropBlanks text).reverse) =
          dropBlanks (dropBlanks text).reverse :=
      List.dropWhile_append_of_pos reverseBlank
    rw [List.reverse_append, reverseDropped]

end SqlDialect
