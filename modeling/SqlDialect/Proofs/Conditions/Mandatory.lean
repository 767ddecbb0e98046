import SqlDialect.Proofs.Faults.Attribution

/-!
# Conditions that have to be there

An update and a deletion have to have conditions. That the word `WHERE` does not
come anywhere after the table is said before anything else that is wrong there, and
it is said of no other statement (`Statement.ofTokens_eq_absentWhere_iff`). Only the
word itself counts, not its letters in a literal.

A word `WHERE` that does come need not be where it belongs. But then the statement is
refused for something else, so that none is read without conditions
(`Statement.ofText_demandsWhere`).
-/

namespace SqlDialect

open Grammar

/-- Whether tokens begin as an update or a deletion of a table, and lack the word
`WHERE` after the table. -/
def LacksWhere (tokens : List Token) : Prop :=
  ∃ kind ∈ [StatementKind.update, .delete], ∃ table rest,
    tokens = openingWords kind ++ .literal table :: rest ∧ .keyword .WHERE ∉ rest

/-! ## Opening words -/

/-- The words that a statement begins with tell its kind. -/
theorem openingWords_append_inj
    {kind otherKind : StatementKind}
    {rest otherRest : List Token} :
    openingWords kind ++ rest = openingWords otherKind ++ otherRest ↔
      kind = otherKind ∧ rest = otherRest := by
  cases kind <;> cases otherKind <;> simp [openingWords]

/-- Conditions are lacking if WHERE does not come after the table of an update or a
deletion. -/
theorem lacksWhere_openingWords_append_iff
    {kind : StatementKind}
    {rest : List Token} :
    LacksWhere (openingWords kind ++ rest) ↔
      kind ∈ [StatementKind.update, .delete] ∧
        ∃ table after, rest = .literal table :: after ∧ .keyword .WHERE ∉ after := by
  simp only [LacksWhere, openingWords_append_inj]
  constructor
  · rintro ⟨_, demands, table, after, ⟨rfl, isTable⟩, absent⟩
    exact ⟨demands, table, after, isTable, absent⟩
  · rintro ⟨demands, table, after, isTable, absent⟩
    exact ⟨kind, demands, table, after, ⟨rfl, isTable⟩, absent⟩

/-- A statement is derived from tokens that begin with the words of its kind. -/
theorem Grammar.IsStatement.openingWords_prefix
    {statement : Statement}
    {tokens : List Token}
    (derived : IsStatement statement tokens) :
    openingWords statement.kind <+: tokens := by
  cases derived <;> exact ⟨_, rfl⟩

/-- The statements that have to have conditions have some. -/
theorem Grammar.IsStatement.conditions_ne_nil
    {statement : Statement}
    {tokens : List Token}
    (derived : IsStatement statement tokens)
    (demands : statement.kind ∈ [StatementKind.update, .delete]) :
    statement.conditions ≠ [] := by
  cases derived with
  | select | insert => simp at demands
  | update _ _ conditionsDerived => exact conditionsDerived.ne_nil
  | delete _ conditionsDerived => exact conditionsDerived.ne_nil

/-! ## The fault -/

namespace Clause

/-- What an update has after its table and the demand for the word `WHERE`. -/
def updateOfTable (table : String) : Clause Statement := do
  skip (.keyword .SET) .missingSet
  let assignments ← assignmentSeries.clause
  let conditions ← conditions
  return { Statement.ofTable .update table with
    assignments := collectAssignments assignments
    conditions := conditions }

/-- What a deletion has after its table and the demand for the word `WHERE`. -/
def deletionOfTable (table : String) : Clause Statement := do
  let conditions ← whereClause
  return { Statement.ofTable .delete table with conditions := conditions }

theorem updateOfTable_failsWithin (table : String) :
    (updateOfTable table).FailsWithin
      (.missingSet :: (assignmentFaults ++ conditionFaults)) := by
  refine .bind (failsWithin_skip (by decide)) fun _ => ?_
  refine .bind (assignments_failsWithin.mono (by decide)) fun assignments => ?_
  exact .bind (conditions_failsWithin.mono (by decide)) fun _ => failsWithin_pure _

theorem deletionOfTable_failsWithin (table : String) :
    (deletionOfTable table).FailsWithin (.missingWhere :: conditionFaults) :=
  .bind whereClause_failsWithin fun _ => failsWithin_pure _

/-- After its table and the demand for the word `WHERE`, a clause is read where that
word is to come. -/
theorem run_table_demandWhere
    (body : String → Clause α)
    (name : String)
    (tokens : List Token) :
    (table >>= fun name => demandWhere >>= fun _ => body name).run
        (.literal name :: tokens) =
      if .keyword .WHERE ∈ tokens then (body name).run tokens
      else .error .absentWhere := by
  rw [run_bind_of_ok (run_table_eq_ok_iff.mpr rfl), run_demandWhere_bind]

/-- The word `WHERE` is found to be absent exactly if there is a table and the word does
not come after it. -/
theorem run_table_demandWhere_eq_absentWhere_iff
    {body : String → Clause α}
    {faults : List SyntaxFault}
    (bodyFails : ∀ name, (body name).FailsWithin faults)
    (otherFaults : .absentWhere ∉ faults)
    {tokens : List Token} :
    (table >>= fun name => demandWhere >>= fun _ => body name).run tokens =
        .error .absentWhere ↔
      ∃ name after, tokens = .literal name :: after ∧ .keyword .WHERE ∉ after := by
  constructor
  · intro failed
    rcases run_bind_eq_error_iff.mp failed with tableFailed | ⟨name, after, tableRead, -⟩
    · cases (run_expect_eq_error_iff.mp tableFailed).1
    obtain rfl := run_table_eq_ok_iff.mp tableRead
    refine ⟨name, after, rfl, fun isThere => ?_⟩
    rw [run_table_demandWhere, if_pos isThere] at failed
    exact otherFaults (bodyFails name _ _ failed)
  · rintro ⟨name, after, rfl, absent⟩
    rw [run_table_demandWhere, if_neg absent]

/-- After a table the absence of WHERE is found first, and without a table it is not
looked for. -/
theorem run_ofKind_eq_absentWhere_iff
    {kind : StatementKind}
    (demands : kind ∈ [StatementKind.update, .delete])
    {tokens : List Token} :
    (ofKind kind).run tokens = .error .absentWhere ↔
      ∃ name after, tokens = .literal name :: after ∧ .keyword .WHERE ∉ after := by
  simp only [List.mem_cons, List.not_mem_nil, or_false] at demands
  rcases demands with rfl | rfl
  · exact run_table_demandWhere_eq_absentWhere_iff updateOfTable_failsWithin (by decide)
  · exact run_table_demandWhere_eq_absentWhere_iff deletionOfTable_failsWithin (by decide)

end Clause

namespace Statement

/-- Tokens are refused for lacking conditions exactly if they do. -/
theorem ofTokens_eq_absentWhere_iff {tokens : List Token} :
    ofTokens tokens = .error .absentWhere ↔ LacksWhere tokens := by
  rw [ofTokens_eq_error_iff]
  rcases Clause.run_statement_cases tokens with
    ⟨kind, rest, rfl⟩ | ⟨noKind, unknown⟩
  · rw [Clause.run_statement_openingWords, lacksWhere_openingWords_append_iff]
    constructor
    · intro failed
      rcases Clause.fault_of_ofKind failed with member | ⟨-, selected, isLabel, -⟩
      · have demands := SyntaxFault.mem_of_absentWhere_mem_ofKind member
        exact ⟨demands, (Clause.run_ofKind_eq_absentWhere_iff demands).mp failed⟩
      · cases isLabel
    · rintro ⟨demands, lacking⟩
      exact (Clause.run_ofKind_eq_absentWhere_iff demands).mpr lacking
  · rw [unknown]
    refine iff_of_false (by simp) ?_
    rintro ⟨kind, -, table, rest, rfl, -⟩
    exact noKind kind (List.prefix_append _ _)

theorem failsWith_absentWhere_iff (text : String) :
    FailsWith text SyntaxFault.absentWhere.message ↔
      ofText text = .error .absentWhere := by
  constructor
  · rintro ⟨fault, failed, isMandatory⟩
    rw [failed, SyntaxFault.eq_absentWhere_of_message isMandatory]
  · intro failed
    exact ⟨.absentWhere, failed, rfl⟩

/-- A text is refused for a missing `WHERE` exactly if it begins as an update or a
deletion of a table and that word does not come after the table, whatever else is wrong
there. So every update and every deletion that is read has conditions. -/
theorem ofText_demandsWhere (text : String) :
    (FailsWith text "at WHERE: WHERE clause is mandatory for UPDATE & DELETE" ↔
      LacksWhere (tokensOf text)) ∧
    ∀ statement, ofText text = .ok statement →
      openingWords statement.kind <+: tokensOf text ∧
        (statement.kind ∈ [StatementKind.update, .delete] →
          statement.conditions ≠ []) := by
  constructor
  · exact (failsWith_absentWhere_iff text).trans ofTokens_eq_absentWhere_iff
  · intro statement read
    have derived := (isStatement_of_ofTokens read).1
    exact ⟨derived.openingWords_prefix, derived.conditions_ne_nil⟩

/-- An update in which a backslash keeps the word `WHERE` inside a literal, and a
deletion with a condition. -/
theorem ofText_demandsWhere_escapedQuote :
    FailsWith "update 't' a='\\' where b='1'"
        "at WHERE: WHERE clause is mandatory for UPDATE & DELETE" ∧
      ∃ statement,
        ofText "delete from 't'where a<b" = .ok statement ∧
          statement.kind = .delete ∧
          openingWords statement.kind <+: tokensOf "delete from 't'where a<b" ∧
          statement.conditions ≠ [] := by
  have lacking : LacksWhere (tokensOf "update 't' a='\\' where b='1'") := by
    have tokens : tokensOf "update 't' a='\\' where b='1'" =
        openingWords .update ++ .literal "t" :: [.ident "a", .equal,
          .literal "\\' where b=", .ident "1", .ident "'"] := by
      decide +kernel
    exact ⟨.update, by simp, "t", _, tokens, by simp⟩
  have read : ofText "delete from 't'where a<b" =
      .ok { ofTable .delete "t" with
        conditions := [⟨.field "a", .less, .field "b"⟩] } := by
    decide +kernel
  obtain ⟨opens, someConditions⟩ := (ofText_demandsWhere _).2 _ read
  exact ⟨(ofText_demandsWhere _).1.mpr lacking, _, read, rfl, opens,
    someConditions (by simp [ofTable])⟩

end Statement

end SqlDialect
