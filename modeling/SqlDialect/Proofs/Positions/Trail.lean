import SqlDialect.Clause.Conditions
import SqlDialect.Proofs.Faults.Reading
import SqlDialect.Proofs.Positions.Walk

/-!
# The trails of walks

A walk with some tokens ahead reads as expected if it comes to an end with the expected
result, and with the expected tokens ahead, and if its trail leads there: no position in
it is smaller than one before, none is beyond the last token, and going round a loop again
is always going round it further on (`Walk.Reads`). Such walks can be put one after
another, and a loop of them comes to an end if its body passes a token whenever it asks
for another round: then it never takes more rounds than there are tokens, and one more to
find the end (`Walk.Tracks.loop`).
-/

namespace SqlDialect

/-- If a mark is that of going round a loop again, then tokens have been passed since the
round before. -/
def TrailMark.Advances (mark : TrailMark) : Prop :=
  ∀ loop before, mark.event = .wentRound loop before → before < mark.position

/-- The number of tokens that have been passed according to some marks. -/
def passedTokens (marks : List TrailMark) : Nat :=
  marks.countP (·.event = .passed)

/-- Some marks lead from one state to another along tokens. -/
structure Leads
    (tokens : List Token)
    (start finish : WalkState)
    (marks : List TrailMark) : Prop where
  trail : finish.trail = start.trail ++ marks
  inOrder : marks.Pairwise fun earlier later => earlier.position ≤ later.position
  between :
    ∀ mark ∈ marks, start.position ≤ mark.position ∧ mark.position ≤ finish.position
  advances : ∀ mark ∈ marks, mark.Advances
  accounted : finish.position = start.position + passedTokens marks
  inBounds : finish.position ≤ tokens.length

namespace Leads

variable
  {tokens : List Token}
  {start middle finish : WalkState}
  {marks laterMarks : List TrailMark}

theorem refl (inBounds : start.position ≤ tokens.length) :
    Leads tokens start start [] where
  trail := (List.append_nil _).symm
  inOrder := .nil
  between := List.forall_mem_nil _
  advances := List.forall_mem_nil _
  accounted := rfl
  inBounds := inBounds

/-- No walk goes back. -/
theorem onward (leads : Leads tokens start finish marks) :
    start.position ≤ finish.position :=
  leads.accounted ▸ Nat.le_add_right _ _

/-- Walks in a row leave the marks of both, which stay in order since the second one
begins where the first one ends. -/
theorem trans
    (first : Leads tokens start middle marks)
    (second : Leads tokens middle finish laterMarks) :
    Leads tokens start finish (marks ++ laterMarks) where
  trail := by rw [second.trail, first.trail, List.append_assoc]
  inOrder := by
    refine List.pairwise_append.mpr ⟨first.inOrder, second.inOrder, ?_⟩
    intro earlier isEarlier later isLater
    exact (first.between earlier isEarlier).2.trans (second.between later isLater).1
  between := by
    refine List.forall_mem_append.mpr ⟨fun mark member => ?_, fun mark member => ?_⟩
    · obtain ⟨after, before⟩ := first.between mark member
      exact ⟨after, before.trans second.onward⟩
    · obtain ⟨after, before⟩ := second.between mark member
      exact ⟨first.onward.trans after, before⟩
  advances := List.forall_mem_append.mpr ⟨first.advances, second.advances⟩
  accounted := by
    rw [second.accounted, first.accounted, passedTokens, passedTokens, passedTokens,
      List.countP_append, Nat.add_assoc]
  inBounds := second.inBounds

/-- A mark at the position to which a walk goes. -/
theorem single
    {event : WalkEvent}
    (accounted :
      finish.position = start.position + passedTokens [⟨event, finish.position⟩])
    (inBounds : finish.position ≤ tokens.length)
    (trail : finish.trail = start.trail ++ [⟨event, finish.position⟩])
    (advances : TrailMark.Advances ⟨event, finish.position⟩) :
    Leads tokens start finish [⟨event, finish.position⟩] where
  trail := trail
  inOrder := List.pairwise_singleton _ _
  between := by
    rintro mark member
    rw [List.mem_singleton.mp member]
    exact ⟨accounted ▸ Nat.le_add_right _ _, Nat.le_refl _⟩
  advances := by
    rintro mark member
    rwa [List.mem_singleton.mp member]
  accounted := accounted
  inBounds := inBounds

end Leads

namespace Walk

/-! ## Walks in a row -/

/-- A walk goes on from where the one before it has come to, with what that one found. -/
theorem bind_of_ok
    {first : Walk α}
    {second : α → Walk β}
    {course : WalkCourse}
    {start middle : WalkState}
    {value : α}
    (walked : first course start = some (.ok value, middle)) :
    (first >>= second) course start = second value course middle := by
  simp only [bind, ReaderT.bind, ExceptT.bind, ExceptT.mk, StateT.bind, walked, Option.bind,
    ExceptT.bindCont]

theorem bind_of_error
    {first : Walk α}
    {second : α → Walk β}
    {course : WalkCourse}
    {start finish : WalkState}
    {fault : WalkFault}
    (walked : first course start = some (.error fault, finish)) :
    (first >>= second) course start = some (.error fault, finish) := by
  simp only [bind, ReaderT.bind, ExceptT.bind, ExceptT.mk, StateT.bind, walked, Option.bind,
    ExceptT.bindCont]
  rfl

/-- What a walk comes to, however many rounds its loops may take, as long as there may be
more rounds than there are tokens. -/
def ComesTo
    (walk : Walk α)
    (tokens : List Token)
    (start : WalkState)
    (outcome : Except WalkFault α × WalkState) : Prop :=
  ∀ rounds, tokens.length < rounds → walk ⟨tokens, rounds⟩ start = some outcome

/-- An outcome is what is expected, and marks lead to it. -/
inductive Arrives
    (tokens : List Token)
    (start : WalkState) :
    Except WalkFault α × WalkState → Except SyntaxFault (α × List Token) → Prop
  | ok
      {value : α}
      {finish : WalkState}
      {marks : List TrailMark}
      (leads : Leads tokens start finish marks) :
      Arrives tokens start (.ok value, finish) (.ok (value, tokens.drop finish.position))
  | error
      {fault : SyntaxFault}
      {finish : WalkState}
      {marks : List TrailMark}
      (leads : Leads tokens start finish marks) :
      Arrives tokens start (.error (.refused fault), finish) (.error fault)

/-- What is read after a walk is read where that walk began, as long as its marks lead
there. -/
theorem Arrives.after
    {tokens : List Token}
    {start middle : WalkState}
    {marks : List TrailMark}
    {outcome : Except WalkFault α × WalkState}
    {expected : Except SyntaxFault (α × List Token)}
    (arrives : Arrives tokens middle outcome expected)
    (leads : Leads tokens start middle marks) :
    Arrives tokens start outcome expected := by
  cases arrives with
  | ok later => exact .ok (leads.trans later)
  | error later => exact .error (leads.trans later)

/-- A walk reads what is expected wherever some tokens are ahead. -/
def Reads
    (walk : Walk α)
    (ahead : List Token)
    (expected : Except SyntaxFault (α × List Token)) : Prop :=
  ∀ tokens start, start.position ≤ tokens.length → tokens.drop start.position = ahead →
    ∃ outcome, walk.ComesTo tokens start outcome ∧ Arrives tokens start outcome expected

/-- A walk reads what a clause does, whatever tokens are ahead. -/
def Tracks (walk : Walk α) (clause : Clause α) : Prop :=
  ∀ ahead, walk.Reads ahead (clause.run ahead)

namespace Reads

variable
  {first : Walk α}
  {second : α → Walk β}
  {ahead rest : List Token}
  {value : α}
  {expected : Except SyntaxFault (β × List Token)}

theorem pure (value : α) (ahead : List Token) :
    Reads (pure value) ahead (.ok (value, ahead)) := by
  rintro tokens start inBounds rfl
  exact ⟨_, fun _ _ => rfl, .ok (.refl inBounds)⟩

theorem refuse (fault : SyntaxFault) (ahead : List Token) :
    Reads (α := α) (refuse fault) ahead (.error fault) := by
  rintro tokens start inBounds rfl
  exact ⟨_, fun _ _ => rfl, .error (.refl inBounds)⟩

/-- Two walks in a row read what the second one reads where the first one ends. -/
theorem bind
    (firstReads : first.Reads ahead (.ok (value, rest)))
    (secondReads : (second value).Reads rest expected) :
    (first >>= second).Reads ahead expected := by
  intro tokens start inBounds isAhead
  obtain ⟨outcome, comesTo, arrives⟩ := firstReads tokens start inBounds isAhead
  cases arrives with
  | @ok _ middle marks leads =>
      obtain ⟨outcome, laterComesTo, laterArrives⟩ :=
        secondReads tokens middle leads.inBounds rfl
      refine ⟨outcome, fun rounds enough => ?_, laterArrives.after leads⟩
      rw [bind_of_ok (comesTo rounds enough), laterComesTo rounds enough]

/-- Two walks in a row fail where the first one does. -/
theorem bind_of_error
    {fault : SyntaxFault}
    (firstReads : first.Reads ahead (.error fault)) :
    (first >>= second).Reads ahead (.error fault) := by
  intro tokens start inBounds isAhead
  obtain ⟨outcome, comesTo, arrives⟩ := firstReads tokens start inBounds isAhead
  cases arrives with
  | error leads =>
      exact ⟨_, fun rounds enough => Walk.bind_of_error (comesTo rounds enough),
        .error leads⟩

/-- What is made of the outcome of a walk does not move it. -/
theorem map
    {walk : Walk α}
    {expected : Except SyntaxFault (α × List Token)}
    (reads : walk.Reads ahead expected)
    (change : α → β) :
    (walk >>= fun value => Pure.pure (change value)).Reads ahead
      (expected.map fun read => (change read.1, read.2)) := by
  cases expected with
  | ok read => exact reads.bind (pure (change read.1) read.2)
  | error fault => exact reads.bind_of_error

/-! ## Steps -/

theorem peek (ahead : List Token) :
    peek.Reads ahead (.ok (ahead.head?, ahead)) := by
  rintro tokens start inBounds rfl
  rw [List.head?_drop]
  exact ⟨_, fun _ _ => rfl, .ok (.refl inBounds)⟩

/-- A token that is there is passed, within the tokens. -/
theorem pass (token : Token) (rest : List Token) :
    pass.Reads (token :: rest) (.ok ((), rest)) := by
  intro tokens start inBounds isAhead
  have another : start.position < tokens.length := by
    have lengths := congrArg List.length isAhead
    rw [List.length_drop, List.length_cons] at lengths
    omega
  have remains : tokens.drop (start.position + 1) = rest := by
    rw [← List.tail_drop, isAhead, List.tail_cons]
  rw [← remains]
  exact ⟨_, fun _ _ => rfl, .ok (.single rfl another rfl fun _ _ => nofun)⟩

/-- Within bounds, looking ahead always finds the tokens ahead. -/
theorem lookAhead (ahead : List Token) :
    lookAhead.Reads ahead (.ok (ahead, ahead)) := by
  rintro tokens start inBounds rfl
  let mark : TrailMark := ⟨.lookedAhead, start.position⟩
  refine ⟨(.ok (tokens.drop start.position), ⟨start.position, start.trail ++ [mark]⟩),
    fun rounds _ => ?_, .ok (.single rfl inBounds rfl fun _ _ => nofun)⟩
  change (if tokens.length < start.position then throw _ else Pure.pure _ :
    Walk (List Token)) ⟨tokens, rounds⟩ _ = _
  rw [if_neg (Nat.not_lt.mpr inBounds)]
  rfl

theorem next_nil : next.Reads [] (.ok (none, [])) :=
  (peek []).bind (pure none [])

theorem next_cons (token : Token) (rest : List Token) :
    next.Reads (token :: rest) (.ok (some token, rest)) :=
  (peek (token :: rest)).bind ((pass token rest).bind (pure (some token) rest))

theorem demandMore_nil (fault : SyntaxFault) :
    (demandMore fault).Reads [] (.error fault) :=
  (peek []).bind (refuse fault [])

theorem demandMore_cons (fault : SyntaxFault) (token : Token) (rest : List Token) :
    (demandMore fault).Reads (token :: rest) (.ok ((), token :: rest)) :=
  (peek (token :: rest)).bind (pure () (token :: rest))

end Reads

/-! ## Attempts -/

/-- An attempt finds what the token at the position stands for, and passes the token if
it finds something. -/
structure Finds (attempt : Walk (Option α)) (meaning : Token → Option α) : Prop where
  nothing :
    ∀ {ahead}, (∀ token ∈ ahead.head?, meaning token = none) →
      attempt.Reads ahead (.ok (none, ahead))
  something :
    ∀ {token value}, meaning token = some value →
      ∀ rest, attempt.Reads (token :: rest) (.ok (some value, rest))

/-- A token is passed exactly if it stands for something. -/
theorem finds_nextMeaning (meaning : Token → Option α) :
    (nextMeaning meaning).Finds meaning where
  nothing := by
    intro ahead noMeaning
    refine (Reads.peek ahead).bind ?_
    have found : ahead.head?.bind meaning = none := Option.bind_eq_none_iff.mpr noMeaning
    rw [found]
    exact .pure none ahead
  something := by
    intro token value isMeaning rest
    refine (Reads.peek (token :: rest)).bind ?_
    have found : (token :: rest).head?.bind meaning = some value := isMeaning
    rw [found]
    exact (Reads.pass token rest).bind (.pure (some value) rest)

/-- A token that is no field is still there to be read as a literal. -/
theorem finds_nextOperand : nextOperand.Finds Token.operand? where
  nothing := by
    intro ahead noOperand
    have parts : ∀ token ∈ ahead.head?, token.field? = none ∧ token.value? = none :=
      fun token isHead => Token.operand?_eq_none_iff.mp (noOperand token isHead)
    refine ((finds_nextMeaning _).nothing fun token isHead => (parts token isHead).1).bind ?_
    exact ((finds_nextMeaning _).nothing fun token isHead => (parts token isHead).2).bind
      (.pure none ahead)
  something := by
    intro token operand isOperand rest
    rcases Token.operand?_eq_some_iff.mp isOperand with
      ⟨name, isField, rfl⟩ | ⟨noField, value, isValue, rfl⟩
    · exact ((finds_nextMeaning _).something isField rest).bind (.pure _ rest)
    · refine ((finds_nextMeaning _).nothing ?_).bind ?_
      · rintro _ ⟨⟩
        exact noField
      · exact ((finds_nextMeaning _).something isValue rest).bind (.pure _ rest)

/-- An attempt that has to find something reads what is expected there. -/
theorem Finds.demand
    {attempt : Walk (Option α)}
    {meaning : Token → Option α}
    (finds : attempt.Finds meaning)
    (fault : SyntaxFault) :
    (Walk.demand attempt fault).Tracks (.expect meaning fault) := by
  intro ahead
  cases expected : (Clause.expect meaning fault).run ahead with
  | ok result =>
      obtain ⟨token, rfl, isMeaning⟩ := Clause.run_expect_eq_ok_iff.mp expected
      exact (finds.something isMeaning _).bind (.pure _ _)
  | error other =>
      obtain ⟨rfl, noMeaning⟩ := Clause.run_expect_eq_error_iff.mp expected
      exact (finds.nothing noMeaning).bind (.refuse _ _)

namespace Reads

theorem nextIs_self (expected : Token) (rest : List Token) :
    (nextIs expected).Reads (expected :: rest) (.ok (true, rest)) := by
  have isMeaning : (fun token => if token = expected then some () else none) expected =
      some () := if_pos rfl
  exact ((finds_nextMeaning _).something isMeaning rest).bind (.pure true rest)

/-- Any other token is left where it is. -/
theorem nextIs_of_ne
    {expected : Token}
    {ahead : List Token}
    (other : ahead.head? ≠ some expected) :
    (nextIs expected).Reads ahead (.ok (false, ahead)) := by
  refine ((finds_nextMeaning _).nothing ?_).bind (.pure false ahead)
  rintro token isHead
  exact if_neg fun same : token = expected => other (same ▸ isHead)

end Reads

/-- Demanding a token tracks the clause that skips it, faults included. -/
theorem tracks_demandNext (expected : Token) (fault : SyntaxFault) :
    (demandNext expected fault).Tracks (.skip expected fault) := by
  intro ahead
  cases skipped : (Clause.skip expected fault).run ahead with
  | ok result =>
      rw [Clause.run_skip_eq_ok_iff.mp skipped]
      exact (Reads.nextIs_self expected _).bind (.pure _ _)
  | error other =>
      obtain ⟨rfl, otherHead⟩ := Clause.run_skip_eq_error_iff.mp skipped
      exact (Reads.nextIs_of_ne otherHead).bind (.refuse _ _)

namespace Tracks

theorem pure (value : α) : Tracks (Pure.pure value) (Pure.pure value) :=
  fun ahead => .pure value ahead

/-- Walks in a row track clauses in a row if each tracks its own. -/
theorem bind
    {first : Walk α}
    {second : α → Walk β}
    {clause : Clause α}
    {laterClause : α → Clause β}
    (firstTracks : first.Tracks clause)
    (secondTracks : ∀ value, (second value).Tracks (laterClause value)) :
    (first >>= second).Tracks (clause >>= laterClause) := by
  intro ahead
  have firstReads := firstTracks ahead
  cases firstRun : clause.run ahead with
  | ok result =>
      rw [firstRun] at firstReads
      rw [Clause.run_bind_of_ok firstRun]
      exact firstReads.bind (secondTracks result.1 result.2)
  | error fault =>
      rw [firstRun] at firstReads
      rw [Clause.run_bind_of_error firstRun]
      exact firstReads.bind_of_error

/-- A walk that goes on after a token reads what a clause does, if it does at the end and
after any token. -/
theorem next
    {second : Option Token → Walk α}
    {clause : Clause α}
    (atEnd : (second none).Reads [] (clause.run []))
    (afterToken :
      ∀ token rest, (second (some token)).Reads rest (clause.run (token :: rest))) :
    (Walk.next >>= second).Tracks clause := by
  intro ahead
  cases ahead with
  | nil => exact Reads.next_nil.bind atEnd
  | cons token rest => exact (Reads.next_cons token rest).bind (afterToken token rest)

end Tracks

/-! ## Loops -/

section Loops

variable
  {body : σ → Walk (σ ⊕ α)}
  {round : σ → Clause (σ ⊕ α)}
  {whole : σ → Clause α}

section Rounds

variable
  {state : σ}
  {course : WalkCourse}
  {start finish : WalkState}

/-- A loop ends with a fault of its body. -/
theorem loopWithin_of_error
    {fault : WalkFault}
    (walked : body state course start = some (.error fault, finish))
    (name : WalkLoop)
    (left : Nat) :
    loopWithin name body (left + 1) state course start = some (.error fault, finish) := by
  have started : (get : Walk WalkState) course start = some (.ok start, start) := rfl
  rw [loopWithin, bind_of_ok started]
  exact bind_of_error walked

/-- A loop ends with what its body says to be final. -/
theorem loopWithin_of_finished
    {value : α}
    (walked : body state course start = some (.ok (.inr value), finish))
    (name : WalkLoop)
    (left : Nat) :
    loopWithin name body (left + 1) state course start = some (.ok value, finish) := by
  have started : (get : Walk WalkState) course start = some (.ok start, start) := rfl
  rw [loopWithin, bind_of_ok started, bind_of_ok walked]
  rfl

/-- A loop goes on with one round less and one mark more, which tells where this round
began and where it ended. -/
theorem loopWithin_of_another
    {later : σ}
    (walked : body state course start = some (.ok (.inl later), finish))
    (name : WalkLoop)
    (left : Nat) :
    loopWithin name body (left + 1) state course start =
      loopWithin name body left later course
        ⟨finish.position,
          finish.trail ++ [⟨.wentRound name start.position, finish.position⟩]⟩ := by
  have started : (get : Walk WalkState) course start = some (.ok start, start) := rfl
  rw [loopWithin, bind_of_ok started, bind_of_ok walked]
  rfl

end Rounds

/-- A loop comes to the same outcome with any number of rounds that is more than the number
of tokens ahead, if a round that asks for another one has passed a token. -/
theorem exists_loopWithin
    (tracks : ∀ state, (body state).Tracks (round state))
    (passes : ∀ {state ahead later rest},
      (round state).run ahead = .ok (.inl later, rest) → rest.length < ahead.length)
    (unfolds : ∀ state, whole state = round state >>= Sum.elim whole Pure.pure)
    (name : WalkLoop)
    (tokens : List Token)
    (start : WalkState)
    (inBounds : start.position ≤ tokens.length)
    (state : σ) :
    ∃ outcome,
      (∀ left, (tokens.drop start.position).length ≤ left →
        (loopWithin name body (left + 1) state).ComesTo tokens start outcome) ∧
      Arrives tokens start outcome ((whole state).run (tokens.drop start.position)) := by
  -- The induction is on the number of tokens ahead, which each round after which another
  -- one follows makes smaller.
  induction length : (tokens.drop start.position).length using Nat.strong_induction_on
    generalizing start state with
  | _ size inductionHypothesis =>
      obtain ⟨outcome, comesTo, arrives⟩ := tracks state _ tokens start inBounds rfl
      rw [unfolds]
      cases roundRun : (round state).run (tokens.drop start.position) with
      | error fault =>
          rw [roundRun] at arrives
          rw [Clause.run_bind_of_error roundRun]
          cases arrives with
          | error leads =>
              exact ⟨_, fun left _ rounds enough =>
                loopWithin_of_error (comesTo rounds enough) name left, .error leads⟩
      | ok result =>
          rw [roundRun] at arrives
          rw [Clause.run_bind_of_ok roundRun]
          cases arrives with
          | @ok value finish marks leads =>
              cases value with
              | inr value =>
                  exact ⟨_, fun left _ rounds enough =>
                    loopWithin_of_finished (comesTo rounds enough) name left, .ok leads⟩
              | inl later =>
                  have shorter := passes roundRun
                  have further : start.position < finish.position := by
                    rw [List.length_drop, List.length_drop] at shorter
                    omega
                  let mark : TrailMark := ⟨.wentRound name start.position, finish.position⟩
                  let marked : WalkState := ⟨finish.position, finish.trail ++ [mark]⟩
                  have recorded : Leads tokens finish marked [mark] := by
                    refine .single rfl leads.inBounds rfl ?_
                    rintro _ _ ⟨⟩
                    exact further
                  obtain ⟨outcome, laterComesTo, laterArrives⟩ := inductionHypothesis _
                    (length ▸ shorter) marked leads.inBounds later rfl
                  refine ⟨outcome, fun left roundsLeft rounds enough => ?_,
                    (laterArrives.after recorded).after leads⟩
                  rw [loopWithin_of_another (comesTo rounds enough)]
                  -- The rest of the tokens is shorter, so there is a round left for it.
                  cases left with
                  | zero => omega
                  | succ left =>
                      have fewer := Nat.lt_of_lt_of_le (length ▸ shorter) roundsLeft
                      exact laterComesTo left (Nat.le_of_lt_succ fewer) rounds enough

/-- A loop reads what a clause does if the clause is a round, and then the clause again
whenever another round is asked for. -/
theorem Tracks.loop
    (tracks : ∀ state, (body state).Tracks (round state))
    (passes : ∀ {state ahead later rest},
      (round state).run ahead = .ok (.inl later, rest) → rest.length < ahead.length)
    (unfolds : ∀ state, whole state = round state >>= Sum.elim whole Pure.pure)
    (name : WalkLoop)
    (state : σ) :
    (Walk.loop name body state).Tracks (whole state) := by
  rintro ahead tokens start inBounds rfl
  obtain ⟨outcome, comesTo, arrives⟩ :=
    exists_loopWithin tracks passes unfolds name tokens start inBounds state
  refine ⟨outcome, fun rounds enough => ?_, arrives⟩
  have bounded : (tokens.drop start.position).length ≤ tokens.length := by
    rw [List.length_drop]
    omega
  cases rounds with
  | zero => exact absurd enough (Nat.not_lt_zero _)
  | succ rounds =>
      exact comesTo rounds (bounded.trans (Nat.le_of_lt_succ enough)) (rounds + 1) enough

end Loops

/-! ## Outcomes -/

/-- From the first token on, a walk comes to the result of the clause that it tracks. -/
theorem Tracks.outcome?
    {walk : Walk α}
    {clause : Clause α}
    (tracks : walk.Tracks clause)
    (tokens : List Token) :
    ∃ result finish,
      (∀ rounds, tokens.length < rounds →
        walk.outcome? ⟨tokens, rounds⟩ = some (result, finish)) ∧
      Leads tokens ⟨0, []⟩ finish finish.trail ∧
      result = ((clause.run tokens).map Prod.fst).mapError .refused ∧
      ∀ value rest, clause.run tokens = .ok (value, rest) →
        rest = tokens.drop finish.position := by
  obtain ⟨outcome, comesTo, arrives⟩ :=
    tracks tokens tokens ⟨0, []⟩ (Nat.zero_le _) List.drop_zero
  generalize clause.run tokens = expected at arrives
  cases arrives with
  | @ok value finish marks leads =>
      refine ⟨.ok value, finish, comesTo, leads.trail ▸ leads, rfl, ?_⟩
      rintro _ _ ⟨⟩
      rfl
  | @error fault finish marks leads =>
      exact ⟨.error (.refused fault), finish, comesTo, leads.trail ▸ leads, rfl, nofun⟩

end Walk

end SqlDialect
