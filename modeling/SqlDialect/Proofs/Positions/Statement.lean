import SqlDialect.Proofs.Grammar.Statement
import SqlDialect.Proofs.Positions.Clauses

/-!
# Walks along statements

Walking along the tokens of a text with an index always comes to an end, and never looks
ahead from beyond the last token. It reads the statement that the text spells, or is
refused with the same fault, and it has passed all tokens if it reads one
(`Walk.outcome?_statement`).
-/

namespace SqlDialect

/-- A statement is read up to the last token. -/
theorem eq_nil_of_run_statement
    {tokens rest : List Token}
    {statement : Statement}
    (read : Clause.statement.run tokens = .ok (statement, rest)) :
    rest = [] := by
  obtain ⟨derived, absent⟩ := isStatement_of_run read
  rw [run_of_isStatement derived absent] at read
  exact (Prod.mk.inj (Except.ok.inj read)).2.symm

namespace Walk

/-- The rounds of loops that have been asked for: the loop, where the round before began,
and where this one begins. -/
def roundsOf (trail : List TrailMark) : List (WalkLoop × Nat × Nat) :=
  trail.filterMap fun mark =>
    match mark.event with
    | .wentRound loop before => some (loop, before, mark.position)
    | _ => none

/-- A walk along the tokens of a text comes to an end, and always to the same one: no loop
is ever short of rounds, if it may take more of them than there are tokens. The walk reads
the statement that the text spells, or it is refused with the fault of the text; in no case
does it look ahead out of bounds. The position never decreases on the way, and it never
exceeds the number of tokens: each token that has been passed is accounted for in the
trail. Whenever a loop goes round again, tokens have been passed since it last did. A
statement is read only up to the last token. -/
theorem outcome?_statement (text : String) :
    ∃ result finish,
      (∀ rounds, (tokensOf text).length < rounds →
        statement.outcome? ⟨tokensOf text, rounds⟩ = some (result, finish)) ∧
      result = (Statement.ofText text).mapError .refused ∧
      (∀ position, result ≠ .error (.outOfBounds position)) ∧
      finish.trail.Pairwise (fun earlier later => earlier.position ≤ later.position) ∧
      (∀ mark ∈ finish.trail, mark.position ≤ finish.position) ∧
      finish.position ≤ (tokensOf text).length ∧
      finish.position = passedTokens finish.trail ∧
      (∀ mark ∈ finish.trail, ∀ loop before,
        mark.event = .wentRound loop before → before < mark.position) ∧
      ∀ statement, result = .ok statement → finish.position = (tokensOf text).length := by
  obtain ⟨result, finish, walked, leads, expected, ahead⟩ :=
    tracks_statement.outcome? (tokensOf text)
  refine ⟨result, finish, walked, expected, ?_, leads.inOrder,
    fun mark member => (leads.between mark member).2, leads.inBounds, ?_, leads.advances, ?_⟩
  · rintro position rfl
    cases read : (Clause.statement.run (tokensOf text)).map Prod.fst <;>
      (rw [read] at expected; cases expected)
  · rw [leads.accounted, Nat.zero_add]
  · rintro read rfl
    cases run : Clause.statement.run (tokensOf text) with
    | error fault =>
        rw [run] at expected
        cases expected
    | ok value =>
        have noneLeft := eq_nil_of_run_statement run
        rw [ahead _ _ run, List.drop_eq_nil_iff] at noneLeft
        exact Nat.le_antisymm leads.inBounds noneLeft

/-- An insertion of two rows is read up to its last token. Each of its loops is gone round
again, the one for the values of a row in each row. -/
theorem outcome?_statement_twoRows :
    ∃ finish,
      statement.outcome?
          ⟨tokensOf "INSERT INTO 't' (a, b) VALUES ('1', '2'), ('3', '4')", 21⟩ =
          some (.ok { Statement.ofTable .insert "t" with
            fields := ["a", "b"]
            rows := [["1", "2"], ["3", "4"]] }, finish) ∧
        finish.position = 20 ∧
        roundsOf finish.trail =
          [(.insertedFields, 4, 6), (.rowValues, 10, 12), (.rows, 10, 16),
            (.rowValues, 16, 18)] := by
  have read : Statement.ofText "INSERT INTO 't' (a, b) VALUES ('1', '2'), ('3', '4')" =
      .ok { Statement.ofTable .insert "t" with
        fields := ["a", "b"]
        rows := [["1", "2"], ["3", "4"]] } := by decide +kernel
  have tokens : (tokensOf "INSERT INTO 't' (a, b) VALUES ('1', '2'), ('3', '4')").length =
      20 := by decide +kernel
  have again :
      (statement.outcome?
          ⟨tokensOf "INSERT INTO 't' (a, b) VALUES ('1', '2'), ('3', '4')", 21⟩).map
            (fun outcome => roundsOf outcome.2.trail) =
        some [(.insertedFields, 4, 6), (.rowValues, 10, 12), (.rows, 10, 16),
          (.rowValues, 16, 18)] := by decide +kernel
  obtain ⟨result, finish, walked, expected, -, -, -, -, -, -, allPassed⟩ :=
    outcome?_statement "INSERT INTO 't' (a, b) VALUES ('1', '2'), ('3', '4')"
  rw [read] at expected
  subst expected
  have walkedHere := walked 21 (by rw [tokens]; decide)
  rw [walkedHere] at again
  exact ⟨finish, walkedHere, (allPassed _ rfl).trans tokens, Option.some.inj again⟩

end Walk

end SqlDialect
