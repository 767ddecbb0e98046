import SqlDialect.Proofs.Faults.Clauses
import SqlDialect.Proofs.Faults.Messages
import SqlDialect.Proofs.Grammar.Statement
import SqlDialect.Shell.Session

/-!
# Where a fault belongs

Whoever reads the message of a fault reads in it which clause of the statement
was wrong. That is so because the faults of a kind of statement belong to clauses
that it has (`SyntaxFault.mem_kinds_of_mem_ofKind`).

The main statement `message_of_ofText_eq_error` says this of all texts, and says
exactly when the two messages without a clause are given.
-/

namespace SqlDialect

/-- The words that a statement of a kind begins with. -/
def openingWords : StatementKind → List Token
  | .select => [.keyword .SELECT]
  | .update => [.keyword .UPDATE]
  | .delete => [.keyword .DELETE, .keyword .FROM]
  | .insert => [.keyword .INSERT, .keyword .INTO]

/-- The kinds of statement that can have a clause. -/
def ClauseName.kinds : ClauseName → List StatementKind
  | select => [.select]
  | update => [.update]
  | insert => [.insert]
  | conditions => [.select, .update, .delete]

/-- A message about tokens that are no statement is one of those that there are,
and is about a clause that the tokens can have by the words that they begin with.
That conditions are mandatory is said of updates and deletions only. -/
structure IsAttributed (tokens : List Token) (message : String) : Prop where
  known :
    message ∈ fixedMessages ∨
      ∃ selected rest,
        message = labelMessage selected ∧
          tokens = openingWords .select ++ rest ∧
          Clause.Labels selected rest
  clause :
    ∀ name, IsAt name message →
      ∃ kind ∈ name.kinds, openingWords kind <+: tokens
  mandatory :
    message = "at WHERE: WHERE clause is mandatory for UPDATE & DELETE" →
      ∃ kind ∈ [StatementKind.update, .delete], openingWords kind <+: tokens

namespace SyntaxFault

/-- Every message but those about labels is one of a fixed list. -/
theorem message_mem_fixedMessages
    {fault : SyntaxFault}
    (noLabel : ∀ selected, fault ≠ .missingLabel selected) :
    fault.message ∈ fixedMessages := by
  cases fault with
  | missingLabel selected => exact absurd rfl (noLabel selected)
  | _ => decide

/-- That conditions are mandatory is said of one fault alone. -/
theorem eq_absentWhere_of_message
    {fault : SyntaxFault}
    (isMandatory : fault.message = absentWhere.message) :
    fault = absentWhere := by
  have isClause : fault.clause? = some .conditions := by
    rw [← isAt_message_iff, isMandatory, isAt_message_iff]
    rfl
  cases fault <;> cases isClause <;> revert isMandatory <;> decide

/-- The faults that a statement of a kind can have, but for those of labels. -/
def ofKind : StatementKind → List SyntaxFault
  | .select => Clause.selectionFaults
  | .update => .missingTable :: Clause.updateFaults
  | .delete => .missingTable :: Clause.deletionFaults
  | .insert => .missingTable :: Clause.insertionFaults

/-- The faults of a kind of statement belong to clauses that it has. -/
theorem mem_kinds_of_mem_ofKind
    {kind : StatementKind}
    {fault : SyntaxFault}
    {name : ClauseName}
    (member : fault ∈ ofKind kind)
    (isClause : fault.clause? = some name) :
    kind ∈ name.kinds := by
  have ofFaults : ∀ fault ∈ ofKind kind, ∀ name ∈ fault.clause?, kind ∈ name.kinds := by
    cases kind <;> decide
  exact ofFaults fault member name isClause

/-- Only the kinds of statement that have to have conditions are refused for lacking
them. -/
theorem mem_of_absentWhere_mem_ofKind
    {kind : StatementKind}
    (member : absentWhere ∈ ofKind kind) :
    kind ∈ [StatementKind.update, .delete] := by
  revert member
  cases kind <;> decide

/-- A fault of the kind of statement that the tokens begin as has a message about a clause
of that kind. -/
theorem isAttributed_of_mem_ofKind
    {kind : StatementKind}
    {fault : SyntaxFault}
    {tokens : List Token}
    (opens : openingWords kind <+: tokens)
    (member : fault ∈ ofKind kind) :
    IsAttributed tokens fault.message where
  known := by
    refine Or.inl (message_mem_fixedMessages ?_)
    rintro selected rfl
    have noLabel : ∀ selected, missingLabel selected ∉ ofKind kind := by
      cases kind <;>
        simp [ofKind, Clause.selectionFaults, Clause.updateFaults,
          Clause.deletionFaults, Clause.insertionFaults, Clause.conditionFaults]
    exact noLabel selected member
  clause := by
    intro name isAt
    rw [isAt_message_iff] at isAt
    exact ⟨kind, mem_kinds_of_mem_ofKind member isAt, opens⟩
  mandatory := by
    intro isMandatory
    rw [eq_absentWhere_of_message isMandatory] at member
    exact ⟨kind, mem_of_absentWhere_mem_ofKind member, opens⟩

/-- A message about a label names a field of the selection that is followed by AS. -/
theorem isAttributed_missingLabel
    {selected : String}
    {rest : List Token}
    (labels : Clause.Labels selected rest) :
    IsAttributed (openingWords .select ++ rest) (missingLabel selected).message where
  known := Or.inr ⟨selected, rest, rfl, rfl, labels⟩
  clause := by
    intro name isAt
    rw [isAt_message_iff] at isAt
    cases isAt
    exact ⟨.select, List.mem_singleton_self _, List.prefix_append _ _⟩
  mandatory := fun isMandatory => nomatch eq_absentWhere_of_message isMandatory

theorem isAttributed_unknownStatement (tokens : List Token) :
    IsAttributed tokens unknownStatement.message where
  known := Or.inl (message_mem_fixedMessages (by simp))
  clause := by
    intro name isAt
    rw [isAt_message_iff] at isAt
    cases isAt
  mandatory := fun isMandatory => nomatch eq_absentWhere_of_message isMandatory

end SyntaxFault

namespace Clause

/-- A statement of each kind is read by the clause of that kind, after the words
that it begins with. -/
def ofKind : StatementKind → Clause Statement
  | .select => selection
  | .update => update
  | .delete => deletion
  | .insert => insertion

/-- After the words that a kind of statement begins with its own clause is read. -/
theorem run_statement_openingWords
    (kind : StatementKind)
    (rest : List Token) :
    statement.run (openingWords kind ++ rest) = (ofKind kind).run rest := by
  cases kind <;> rfl

/-- Tokens that begin with the words of no kind are of no kind. -/
theorem run_statement_cases (tokens : List Token) :
    (∃ kind rest, tokens = openingWords kind ++ rest) ∨
      ((∀ kind, ¬openingWords kind <+: tokens) ∧
        statement.run tokens = .error .unknownStatement) := by
  simp only [StateT.run]
  fun_cases statement tokens with
  | case1 rest => exact Or.inl ⟨.select, rest, rfl⟩
  | case2 rest => exact Or.inl ⟨.update, rest, rfl⟩
  | case3 rest => exact Or.inl ⟨.delete, rest, rfl⟩
  | case4 rest => exact Or.inl ⟨.insert, rest, rfl⟩
  | case5 _ noSelection noUpdate noDeletion noInsertion =>
      refine Or.inr ⟨fun kind opens => ?_, rfl⟩
      obtain ⟨rest, rfl⟩ := opens
      cases kind with
      | select => exact noSelection rest rfl
      | update => exact noUpdate rest rfl
      | delete => exact noDeletion rest rfl
      | insert => exact noInsertion rest rfl

/-- The faults of each kind of statement. -/
theorem fault_of_ofKind
    {kind : StatementKind}
    {rest : List Token}
    {fault : SyntaxFault}
    (failed : (ofKind kind).run rest = .error fault) :
    fault ∈ SyntaxFault.ofKind kind ∨
      kind = .select ∧ ∃ selected, fault = .missingLabel selected ∧
        Labels selected rest := by
  cases kind with
  | select =>
      exact (fault_of_selection failed).imp_right fun isLabel => ⟨rfl, isLabel⟩
  | update => exact Or.inl (update_failsAfterTable.failsWithin _ _ failed)
  | delete => exact Or.inl (deletion_failsAfterTable.failsWithin _ _ failed)
  | insert => exact Or.inl (insertion_failsAfterTable.failsWithin _ _ failed)

end Clause

namespace Statement

/-- Tokens are refused with the fault that the clause of a whole statement has on them. -/
theorem ofTokens_eq_error_iff
    {tokens : List Token}
    {fault : SyntaxFault} :
    ofTokens tokens = .error fault ↔ Clause.statement.run tokens = .error fault := by
  unfold ofTokens
  cases Clause.statement.run tokens <;> simp [Except.map]

/-- What is said about tokens that are no statement is attributed rightly. -/
theorem isAttributed_of_ofTokens
    {tokens : List Token}
    {fault : SyntaxFault}
    (failed : ofTokens tokens = .error fault) :
    IsAttributed tokens fault.message := by
  rw [ofTokens_eq_error_iff] at failed
  rcases Clause.run_statement_cases tokens with
    ⟨kind, rest, rfl⟩ | ⟨-, unknown⟩
  · rw [Clause.run_statement_openingWords] at failed
    rcases Clause.fault_of_ofKind failed with
      member | ⟨rfl, selected, rfl, labels⟩
    · exact SyntaxFault.isAttributed_of_mem_ofKind (List.prefix_append _ _) member
    · exact SyntaxFault.isAttributed_missingLabel labels
  · rw [unknown] at failed
    cases failed
    exact SyntaxFault.isAttributed_unknownStatement tokens

/-- Tokens are of no kind exactly if they begin as no kind of statement does. -/
theorem ofTokens_eq_unknownStatement_iff {tokens : List Token} :
    ofTokens tokens = .error .unknownStatement ↔
      ∀ kind, ¬openingWords kind <+: tokens := by
  rw [ofTokens_eq_error_iff]
  rcases Clause.run_statement_cases tokens with
    ⟨kind, rest, rfl⟩ | ⟨noKind, unknown⟩
  · rw [Clause.run_statement_openingWords]
    constructor
    · intro failed
      rcases Clause.fault_of_ofKind failed with
        member | ⟨-, selected, isLabel, -⟩
      · have absent : .unknownStatement ∉ SyntaxFault.ofKind kind := by
          cases kind <;> decide
        exact absurd member absent
      · cases isLabel
    · intro noKind
      exact absurd (List.prefix_append _ _) (noKind kind)
  · exact iff_of_true unknown noKind

/-- Apart from a selection, a statement lacks its table exactly if no literal
stands after the words that it begins with. -/
theorem ofTokens_eq_missingTable_iff
    {kind : StatementKind}
    (notSelection : kind ≠ .select)
    {rest : List Token} :
    ofTokens (openingWords kind ++ rest) = .error .missingTable ↔
      ∀ name after, rest ≠ .literal name :: after := by
  rw [ofTokens_eq_error_iff, Clause.run_statement_openingWords]
  cases kind with
  | select => exact absurd rfl notSelection
  | update => exact Clause.update_failsAfterTable.run_eq_missingTable_iff (by decide)
  | delete => exact Clause.deletion_failsAfterTable.run_eq_missingTable_iff (by decide)
  | insert => exact Clause.insertion_failsAfterTable.run_eq_missingTable_iff (by decide)

end Statement

/-- Whether a text is no statement, and that is said in some words. -/
def FailsWith (text message : String) : Prop :=
  ∃ fault, Statement.ofText text = .error fault ∧ fault.message = message

/-- A message that is about no clause tells its fault. -/
theorem failsWith_message_iff
    {known : SyntaxFault}
    (noClause : known.clause? = none)
    (text : String) :
    FailsWith text known.message ↔ Statement.ofText text = .error known := by
  constructor
  · rintro ⟨fault, failed, same⟩
    rw [failed, (SyntaxFault.message_eq_iff noClause fault).mp same]
  · intro failed
    exact ⟨known, failed, rfl⟩

/-- A text that is no statement is reported with a message about a clause that it
can have. It is said to be of no kind exactly if it begins as no kind of statement
does, and, apart from a selection, to lack a table exactly if no literal stands
where the table has to. -/
theorem message_of_ofText_eq_error (text : String) :
    (∀ fault, Statement.ofText text = .error fault →
      (∀ session : Session,
        session.respondToStatement text = .error (.statement fault.message)) ∧
        IsAttributed (tokensOf text) fault.message) ∧
      (FailsWith text "query type cannot be empty" ↔
        ∀ kind, ¬openingWords kind <+: tokensOf text) ∧
      ∀ kind rest, kind ≠ .select → tokensOf text = openingWords kind ++ rest →
        (FailsWith text "table name cannot be empty" ↔
          ∀ name after, rest ≠ .literal name :: after) := by
  refine ⟨fun fault failed => ⟨fun session => ?_, ?_⟩, ?_, ?_⟩
  · rw [Session.respondToStatement, failed]
  · exact Statement.isAttributed_of_ofTokens failed
  · have noClause : SyntaxFault.unknownStatement.clause? = none := rfl
    exact (failsWith_message_iff noClause text).trans
      Statement.ofTokens_eq_unknownStatement_iff
  · intro kind rest notSelection isTokens
    have noClause : SyntaxFault.missingTable.clause? = none := rfl
    refine (failsWith_message_iff noClause text).trans ?_
    rw [Statement.ofText, isTokens]
    exact Statement.ofTokens_eq_missingTable_iff notSelection

/-- A label that is missing after the second selected field, and an update whose
table has no quotes. -/
theorem message_of_ofText_label_and_table :
    (Statement.ofText "select *, b as from 't'" = .error (.missingLabel "b") ∧
        IsAttributed (tokensOf "select *, b as from 't'") (labelMessage "b")) ∧
      tokensOf "update t where" =
          openingWords .update ++ [.ident "t", .keyword .WHERE] ∧
        FailsWith "update t where" "table name cannot be empty" := by
  have label : Statement.ofText "select *, b as from 't'" =
      .error (.missingLabel "b") := by
    decide +kernel
  have tokens : tokensOf "update t where" =
      openingWords .update ++ [.ident "t", .keyword .WHERE] := by
    decide +kernel
  refine ⟨⟨label, ((message_of_ofText_eq_error _).1 _ label).2⟩, tokens, ?_⟩
  refine ((message_of_ofText_eq_error _).2.2 .update _ (by decide) tokens).mpr ?_
  intro name after isTable
  cases isTable

end SqlDialect
