import SqlDialect.Proofs.Spelling.Text
import SqlDialect.Token.Cursor

/-!
# Reading token by token

A cursor in a text holds the characters that it has not read, and no tokens. Still it
answers every request as a place in the list of the tokens would, whatever was asked
before (`TokenCursor.answers_atFront`).

What ties the two together is `TokenCursor.Shows`: the tokens that can still be read are
those ahead of the place, and the cursor has read a character at least for each token
that the place has passed. Both are kept by every step, because every step passes some
number of tokens (`TokenCursor.Passes`), and passing tokens is passing one after another.
-/

namespace SqlDialect

/-! ## Places in a list -/

/-- A place in a list of tokens: the number of tokens before it. -/
structure TokenPlace where
  tokens : List Token
  passed : Nat

namespace TokenPlace

/-- The place at the front of some tokens. -/
def atFront (tokens : List Token) : TokenPlace :=
  ⟨tokens, 0⟩

/-- The tokens after a place. -/
def ahead (place : TokenPlace) : List Token :=
  place.tokens.drop place.passed

/-- The place some tokens later, or the end if there are not so many. -/
def advance (place : TokenPlace) (count : Nat) : TokenPlace :=
  { place with passed := min (place.passed + count) place.tokens.length }

/-- Answer a request with the tokens after a place. -/
def answer (place : TokenPlace) : CursorStep → CursorAnswer × TokenPlace
  | .next => (.token place.tokens[place.passed]?, place.advance 1)
  | .nth skipped =>
      (.token place.tokens[place.passed + skipped]?, place.advance (skipped + 1))
  | .take limit => (.tokens (place.ahead.take limit), place.advance limit)
  | .rest => (.tokens place.ahead, place.advance place.ahead.length)
  | .count => (.number place.ahead.length, place.advance place.ahead.length)

/-- Answer a sequence of requests, each where the one before left off. -/
def answers (place : TokenPlace) : List CursorStep → List CursorAnswer
  | [] => []
  | step :: steps => (place.answer step).1 :: (place.answer step).2.answers steps

/-- The place after a sequence of requests. -/
def after (place : TokenPlace) (steps : List CursorStep) : TokenPlace :=
  steps.foldl (fun place step => (place.answer step).2) place

@[simp] theorem ahead_advance (place : TokenPlace) (count : Nat) :
    (place.advance count).ahead = place.ahead.drop count := by
  rw [ahead, ahead, advance, List.drop_drop, ← List.drop_eq_drop_min]

theorem tokens_answer (place : TokenPlace) (step : CursorStep) :
    (place.answer step).2.tokens = place.tokens := by
  cases step <;> rfl

/-- Whatever a place answers, the tokens stay the same. -/
theorem tokens_after (place : TokenPlace) (steps : List CursorStep) :
    (place.after steps).tokens = place.tokens := by
  induction steps generalizing place with
  | nil => rfl
  | cons step steps inductionHypothesis =>
      exact (inductionHypothesis _).trans (place.tokens_answer step)

end TokenPlace

namespace TokenCursor

variable
  {cursor moved last : TokenCursor}

/-- The cursor after a sequence of requests. -/
def after (cursor : TokenCursor) (steps : List CursorStep) : TokenCursor :=
  steps.foldl (fun cursor step => (cursor.answer step).2) cursor

/-- The tokens that a cursor can still read. -/
def ahead (cursor : TokenCursor) : List Token :=
  Token.scanAll cursor.unread

/-- Each token takes at least one character. -/
theorem length_ahead_le (cursor : TokenCursor) :
    cursor.ahead.length ≤ cursor.unread.length := by
  obtain ⟨unread⟩ := cursor
  change (Token.scanAll unread).length ≤ unread.length
  induction unread using Token.scanAll.induct with
  | case1 unread scanned =>
      rw [Token.scanAll_of_scan?_eq_none scanned]
      exact Nat.zero_le _
  | case2 unread token rest scanned inductionHypothesis =>
      have shorter := Token.length_scan?_lt scanned
      rw [Token.scanAll_of_scan?_eq_some scanned, List.length_cons]
      omega

/-- Nothing is ahead exactly if only blanks are left to read. -/
theorem ahead_eq_nil_iff (cursor : TokenCursor) :
    cursor.ahead = [] ↔ isAllBlank cursor.unread = true := by
  rw [isAllBlank, List.all_eq_true, ← List.dropWhile_eq_nil_iff]
  rw [← dropBlanks, ← Token.scanFront_eq_none_iff, ← Token.scan?, ahead]
  cases scanned : Token.scan? cursor.unread with
  | none => simp [Token.scanAll_of_scan?_eq_none scanned]
  | some read => simp [Token.scanAll_of_scan?_eq_some scanned]

/-! ## Passing tokens -/

/-- A cursor moves past some number of the tokens ahead, or past all of them if there
are not so many. It reads on in the same text, and reads a character at least for each
token. -/
structure Passes (cursor : TokenCursor) (count : Nat) (moved : TokenCursor) : Prop where
  ahead : moved.ahead = cursor.ahead.drop count
  rest : moved.unread <:+ cursor.unread
  reads : min count cursor.ahead.length + moved.unread.length ≤ cursor.unread.length

namespace Passes

theorem none (cursor : TokenCursor) : cursor.Passes 0 cursor where
  ahead := rfl
  rest := List.suffix_refl _
  reads := by omega

/-- Passing all tokens ahead leaves nothing to read. -/
theorem all
    {count : Nat}
    (many : cursor.ahead.length ≤ count) :
    cursor.Passes count ⟨[]⟩ where
  ahead := by
    rw [List.drop_eq_nil_of_le many, ahead_eq_nil_iff]
    rfl
  rest := List.nil_suffix
  reads := by
    have enough := cursor.length_ahead_le
    rw [List.length_nil]
    omega

/-- Tokens are passed one after another. -/
theorem trans
    {first second : Nat}
    (passes : cursor.Passes first moved)
    (passesMore : moved.Passes second last) :
    cursor.Passes (first + second) last where
  ahead := by rw [passesMore.ahead, passes.ahead, List.drop_drop]
  rest := passesMore.rest.trans passes.rest
  reads := by
    have before := passes.reads
    have after := passesMore.reads
    rw [passes.ahead, List.length_drop] at after
    omega

end Passes

/-- The next token is the first one ahead, and is passed. Nothing is read exactly if no
token is ahead. -/
theorem next_cases (cursor : TokenCursor) :
    (∃ token moved,
      cursor.next = (some token, moved) ∧
        cursor.ahead = token :: moved.ahead ∧ cursor.Passes 1 moved) ∨
    cursor.next = (none, ⟨[]⟩) ∧ cursor.ahead = [] := by
  cases scanned : Token.scan? cursor.unread with
  | none => exact .inr ⟨by rw [next, scanned], Token.scanAll_of_scan?_eq_none scanned⟩
  | some read =>
      obtain ⟨token, unread⟩ := read
      have ahead : cursor.ahead = token :: (⟨unread⟩ : TokenCursor).ahead :=
        Token.scanAll_of_scan?_eq_some scanned
      obtain ⟨letters, whole, -⟩ := Token.isSpelledBy_of_scanFront
        (SpelledToken.isBlank_head?_dropBlanks cursor.unread) scanned
      refine .inl ⟨token, ⟨unread⟩, by rw [next, scanned], ahead, ?_, ?_, ?_⟩
      · rw [ahead, List.drop_one, List.tail_cons]
      · exact (whole ▸ List.suffix_append letters unread).trans (List.dropWhile_suffix _)
      · have shorter := Token.length_scan?_lt scanned
        rw [ahead, List.length_cons]
        change min 1 _ + unread.length ≤ _
        omega

/-- The token after some that are passed over is the one with that place ahead. -/
theorem nth_passes (cursor : TokenCursor) (skipped : Nat) :
    (cursor.nth skipped).1 = cursor.ahead[skipped]? ∧
      cursor.Passes (skipped + 1) (cursor.nth skipped).2 := by
  induction skipped generalizing cursor with
  | zero =>
      rcases cursor.next_cases with ⟨token, moved, read, ahead, passes⟩ | ⟨read, ahead⟩
      · rw [nth, read, ahead]
        exact ⟨rfl, passes⟩
      · rw [nth, read, ahead]
        exact ⟨rfl, .all (by simp [ahead])⟩
  | succ skipped inductionHypothesis =>
      rcases cursor.next_cases with ⟨token, moved, read, ahead, passes⟩ | ⟨read, ahead⟩
      · obtain ⟨found, passesMore⟩ := inductionHypothesis moved
        rw [nth, read, ahead, List.getElem?_cons_succ]
        rw [Nat.add_comm (skipped + 1)]
        exact ⟨found, passes.trans passesMore⟩
      · rw [nth, read, ahead]
        exact ⟨rfl, .all (by simp [ahead])⟩

/-- The tokens up to a limit are the first ones ahead. -/
theorem take_passes (cursor : TokenCursor) (limit : Nat) :
    (cursor.take limit).1 = cursor.ahead.take limit ∧
      cursor.Passes limit (cursor.take limit).2 := by
  induction limit generalizing cursor with
  | zero => exact ⟨rfl, .none cursor⟩
  | succ limit inductionHypothesis =>
      rcases cursor.next_cases with ⟨token, moved, read, ahead, passes⟩ | ⟨read, ahead⟩
      · obtain ⟨found, passesMore⟩ := inductionHypothesis moved
        rw [take, read, ahead, List.take_succ_cons, Nat.add_comm limit]
        exact ⟨congrArg (token :: ·) found, passes.trans passesMore⟩
      · rw [take, read, ahead]
        exact ⟨rfl, .all (by simp [ahead])⟩

/-! ## Cursors and places -/

/-- A cursor in a text shows a place in a list: the same tokens are ahead of both, and
the cursor has read a character at least for each token that the place has passed. -/
structure Shows (text : String) (cursor : TokenCursor) (place : TokenPlace) : Prop where
  ahead : cursor.ahead = place.ahead
  inText : cursor.unread <:+ text.toList
  inList : place.passed ≤ place.tokens.length
  reads : place.passed + cursor.unread.length ≤ text.length

namespace Shows

variable
  {text : String}
  {place : TokenPlace}

/-- Before the first step a cursor shows the place in front of all tokens. -/
theorem atFront (text : String) :
    (TokenCursor.atFront text).Shows text (.atFront (tokensOf text)) where
  ahead := rfl
  inText := List.suffix_refl _
  inList := Nat.zero_le _
  reads := by
    rw [TokenPlace.atFront, Nat.zero_add]
    exact Nat.le_refl _

theorem length_ahead
    (shown : cursor.Shows text place) :
    place.passed + cursor.ahead.length = place.tokens.length := by
  have bounded := shown.inList
  rw [shown.ahead, TokenPlace.ahead, List.length_drop]
  omega

/-- Tokens that a cursor passes are passed by the place that it shows. -/
theorem advance
    {count : Nat}
    (shown : cursor.Shows text place)
    (passes : cursor.Passes count moved) :
    moved.Shows text (place.advance count) where
  ahead := by rw [passes.ahead, shown.ahead, TokenPlace.ahead_advance]
  inText := passes.rest.trans shown.inText
  inList := Nat.min_le_right _ _
  reads := by
    have before := shown.reads
    have between := passes.reads
    have whole := shown.length_ahead
    change min (place.passed + count) place.tokens.length + _ ≤ _
    omega

/-- A step gives the same answer in a text and in the list of its tokens, and goes on
from places that belong together. -/
theorem answer
    (shown : cursor.Shows text place)
    (step : CursorStep) :
    (cursor.answer step).1 = (place.answer step).1 ∧
      (cursor.answer step).2.Shows text (place.answer step).2 := by
  have getElem?_ahead (skipped : Nat) :
      place.ahead[skipped]? = place.tokens[place.passed + skipped]? :=
    List.getElem?_drop
  cases step with
  | next =>
      obtain ⟨found, passes⟩ := cursor.nth_passes 0
      rw [shown.ahead, getElem?_ahead] at found
      exact ⟨congrArg CursorAnswer.token found, shown.advance passes⟩
  | nth skipped =>
      obtain ⟨found, passes⟩ := cursor.nth_passes skipped
      rw [shown.ahead, getElem?_ahead] at found
      exact ⟨congrArg CursorAnswer.token found, shown.advance passes⟩
  | take limit =>
      obtain ⟨found, passes⟩ := cursor.take_passes limit
      rw [shown.ahead] at found
      exact ⟨congrArg CursorAnswer.tokens found, shown.advance passes⟩
  | rest =>
      have passes := Passes.all (Nat.le_of_eq (congrArg List.length shown.ahead))
      exact ⟨congrArg CursorAnswer.tokens shown.ahead, shown.advance passes⟩
  | count =>
      have passes := Passes.all (Nat.le_of_eq (congrArg List.length shown.ahead))
      exact ⟨congrArg (CursorAnswer.number ∘ List.length) shown.ahead,
        shown.advance passes⟩

/-- So any sequence of steps gives the same answers. -/
theorem answers
    (shown : cursor.Shows text place)
    (steps : List CursorStep) :
    cursor.answers steps = place.answers steps ∧
      (cursor.after steps).Shows text (place.after steps) := by
  induction steps generalizing cursor place with
  | nil => exact ⟨rfl, shown⟩
  | cons step steps inductionHypothesis =>
      obtain ⟨sameAnswer, shownNext⟩ := shown.answer step
      obtain ⟨sameAnswers, shownLast⟩ := inductionHypothesis shownNext
      refine ⟨?_, shownLast⟩
      change (cursor.answer step).1 :: (cursor.answer step).2.answers steps = _
      rw [sameAnswer, sameAnswers]
      rfl

/-- Both are at the end together. -/
theorem ahead_eq_nil_iff
    (shown : cursor.Shows text place) :
    cursor.ahead = [] ↔ place.passed = place.tokens.length := by
  rw [← List.length_eq_zero_iff]
  have whole := shown.length_ahead
  omega

end Shows

/-- A cursor finds nothing exactly if no token is ahead. -/
theorem next_eq_none_iff (cursor : TokenCursor) :
    cursor.next.1 = none ↔ cursor.ahead = [] := by
  rcases cursor.next_cases with ⟨token, moved, read, ahead, -⟩ | ⟨read, ahead⟩
  · simp [read, ahead]
  · simp [read, ahead]

/-- Whatever has been asked of a cursor in a text before, it answers as a place in the
list of the tokens does. It finds no next token exactly at the end of the list, which is
where only blanks are left of the text, and from then on it answers as in an empty list.
Every token that it finds takes characters off what is left to read, so a text has at
most as many tokens as characters. -/
theorem answers_atFront (text : String) (steps : List CursorStep) :
    let cursor := (atFront text).after steps
    let place := (TokenPlace.atFront (tokensOf text)).after steps
    (atFront text).answers steps = (TokenPlace.atFront (tokensOf text)).answers steps ∧
    (cursor.next.1 = none ↔ place.passed = (tokensOf text).length) ∧
    (cursor.next.1 = none ↔ isAllBlank cursor.unread = true) ∧
    (cursor.next.1 = none →
      ∀ later, cursor.next.2.answers later = (TokenPlace.atFront []).answers later) ∧
    (∀ token moved, cursor.next = (some token, moved) →
      ∃ consumed, consumed ≠ [] ∧ cursor.unread = consumed ++ moved.unread) ∧
    place.passed + cursor.unread.length ≤ text.length ∧
    (tokensOf text).length ≤ text.length := by
  intro cursor place
  obtain ⟨sameAnswers, shown⟩ := (Shows.atFront text).answers steps
  refine ⟨sameAnswers, ?_, ?_, ?_, ?_, shown.reads, (atFront text).length_ahead_le⟩
  · rw [next_eq_none_iff, shown.ahead_eq_nil_iff, TokenPlace.tokens_after]
    exact Iff.rfl
  · rw [next_eq_none_iff, ahead_eq_nil_iff]
  · intro noneFound later
    rcases cursor.next_cases with ⟨token, moved, read, -⟩ | ⟨read, -⟩
    · rw [read] at noneFound
      cases noneFound
    · have noTokens : tokensOf "" = [] := by decide +kernel
      rw [read, ← noTokens]
      exact ((Shows.atFront "").answers later).1
  · intro token moved found
    rcases cursor.next_cases with ⟨first, next, read, ahead, passes⟩ | ⟨read, -⟩
    · rw [read] at found
      obtain ⟨-, rfl⟩ := Prod.mk.inj found
      obtain ⟨consumed, whole⟩ := passes.rest
      refine ⟨consumed, ?_, whole.symm⟩
      rintro rfl
      have reads := passes.reads
      rw [← whole, ahead, List.length_cons, List.nil_append] at reads
      omega
    · rw [read] at found
      cases found

/-- A cursor that passes over a word and a symbol finds a literal next. At the end it
finds nothing, and there is nothing for it to count. -/
theorem answers_atFront_literalLast :
    ((atFront "a<= 'b' ").after [.take 1, .nth 0]).next =
        (some (.literal "b"), ⟨[' ']⟩) ∧
      (∃ consumed, consumed ≠ [] ∧
        ((atFront "a<= 'b' ").after [.take 1, .nth 0]).unread = consumed ++ [' ']) ∧
      ((atFront "a<= 'b' ").after [.nth 2]).next.1 = none ∧
      ((atFront "a<= 'b' ").after [.nth 2]).next.2.answers [.count, .next] =
        (TokenPlace.atFront []).answers [.count, .next] := by
  have found : ((atFront "a<= 'b' ").after [.take 1, .nth 0]).next =
      (some (.literal "b"), ⟨[' ']⟩) :=
    Prod.ext (by decide +kernel) (congrArg TokenCursor.mk (by decide +kernel))
  have noneFound : ((atFront "a<= 'b' ").after [.nth 2]).next.1 = none := by decide +kernel
  obtain ⟨-, -, -, -, consumes, -⟩ := answers_atFront "a<= 'b' " [.take 1, .nth 0]
  obtain ⟨-, -, -, ended, -⟩ := answers_atFront "a<= 'b' " [.nth 2]
  exact ⟨found, consumes _ _ found, noneFound, ended noneFound _⟩

end TokenCursor

end SqlDialect
