import SqlDialect.Proofs.Conditions.Mandatory

/-!
# Conditions of several kinds of statement

A selection comes to its conditions after a look at whether anything is left, an update
from its last assignment, and a deletion after its demand for the word `WHERE`. From
that word on all three go the same way, to the end. So it is what comes after the word
that tells whether there are conditions, which ones, and what is wrong with them, and
nothing before it (`Statement.conditions_ofTokens_alike`).
-/

namespace SqlDialect

open Grammar

/-- A selection with conditions, given the tokens of its items and of its conditions. -/
def selectionTokens
    (itemTokens : List Token)
    (table : String)
    (conditionTokens : List Token) : List Token :=
  openingWords .select ++
    (itemTokens ++ .keyword .FROM :: .literal table ::
      .keyword .WHERE :: conditionTokens)

/-- An update, given the tokens of its assignments and of its conditions. -/
def updateTokens
    (table : String)
    (assignmentTokens conditionTokens : List Token) : List Token :=
  openingWords .update ++
    (.literal table :: .keyword .SET ::
      (assignmentTokens ++ .keyword .WHERE :: conditionTokens))

/-- A deletion, given the tokens of its conditions. -/
def deletionTokens
    (table : String)
    (conditionTokens : List Token) : List Token :=
  openingWords .delete ++ (.literal table :: .keyword .WHERE :: conditionTokens)

/-- What the tokens after the word `WHERE` give. -/
def judgedConditions (tokens : List Token) : Except SyntaxFault (List Condition) :=
  (Clause.conditions.run tokens).map Prod.fst

namespace Clause

theorem map_fst_run_eq_ok_iff
    {clause : Clause α}
    {tokens : List Token}
    {value : α} :
    (clause.run tokens).map Prod.fst = .ok value ↔
      ∃ rest, clause.run tokens = .ok (value, rest) := by
  cases clause.run tokens with
  | error fault => simp [Except.map]
  | ok read =>
      obtain ⟨found, rest⟩ := read
      simp [Except.map]

/-- A clause that makes something of what another one reads. -/
theorem map_fst_run_bind_pure
    (clause : Clause α)
    (make : α → β)
    (tokens : List Token) :
    ((clause >>= fun value => pure (make value)).run tokens).map Prod.fst =
      ((clause.run tokens).map Prod.fst).map make := by
  rw [StateT.run_bind]
  cases clause.run tokens <;> rfl

theorem run_whereClause_where (tokens : List Token) :
    whereClause.run (.keyword .WHERE :: tokens) = conditions.run tokens :=
  run_bind_of_ok (run_skip_eq_ok_iff.mpr rfl)

theorem run_optionalWhereClause_where (tokens : List Token) :
    optionalWhereClause.run (.keyword .WHERE :: tokens) = conditions.run tokens :=
  (run_optionalWhereClause_cons _ _).trans (run_whereClause_where tokens)

/-- Clauses that go on after the same go on alike. -/
theorem run_bind_of_run_eq
    {first other : Clause α}
    {second : α → Clause β}
    {tokens otherTokens : List Token}
    (same : first.run tokens = other.run otherTokens) :
    (first >>= second).run tokens = (other >>= second).run otherTokens := by
  rw [StateT.run_bind, StateT.run_bind, same]

/-- A selection with a list of items and a table makes of its conditions what it is. -/
theorem run_selection_of_items
    {items : List SelectedItem}
    {itemTokens : List Token}
    (isItemList : IsItemList items itemTokens)
    (table : String)
    (conditionTokens : List Token) :
    selection.run
        (itemTokens ++ .keyword .FROM :: .literal table ::
          .keyword .WHERE :: conditionTokens) =
      (conditions >>= fun read => pure (selectionOf items table read)).run
        conditionTokens := by
  have itemsRead : selectedItemSeries.clause.run
      (itemTokens ++ .keyword .FROM :: .literal table ::
        .keyword .WHERE :: conditionTokens) =
      .ok (items, .literal table :: .keyword .WHERE :: conditionTokens) :=
    selectedItemSeries_follows.read_eq_ok_iff.mpr
      ⟨itemTokens, _, rfl,
        Separated.and_forall.mpr
          ⟨isItemList.derived,
            (labelsNoWildcard_iff isItemList.derived).mpr isItemList.labels⟩,
        run_afterSelectedItem_finished.mpr rfl⟩
  rw [selection, run_bind_of_ok itemsRead, run_bind_of_ok (run_table_eq_ok_iff.mpr rfl)]
  exact run_bind_of_run_eq (run_optionalWhereClause_where conditionTokens)

/-- Once its assignments are derived an update is read as its conditions are. -/
theorem run_update_of_assignments
    {written : List (String × String)}
    {assignmentTokens : List Token}
    (assignmentsDerived : Separated [.comma] IsAssignment written assignmentTokens)
    (table : String)
    (conditionTokens : List Token) :
    update.run
        (.literal table :: .keyword .SET ::
          (assignmentTokens ++ .keyword .WHERE :: conditionTokens)) =
      (conditions >>= fun read => pure { Statement.ofTable .update table with
        assignments := collectAssignments written
        conditions := read }).run conditionTokens := by
  have assignmentsRead : assignmentSeries.clause.run
      (assignmentTokens ++ .keyword .WHERE :: conditionTokens) =
      .ok (written, conditionTokens) :=
    assignmentSeries_follows.read_eq_ok_iff.mpr
      ⟨assignmentTokens, _, rfl, assignmentsDerived,
        run_afterAssignment_finished.mpr rfl⟩
  refine (run_table_demandWhere updateOfTable _ _).trans ?_
  rw [if_pos (by simp), updateOfTable, run_bind_of_ok (run_skip_eq_ok_iff.mpr rfl),
    run_bind_of_ok assignmentsRead]

/-- After WHERE a deletion is read as its conditions are. -/
theorem run_deletion_where
    (table : String)
    (conditionTokens : List Token) :
    deletion.run (.literal table :: .keyword .WHERE :: conditionTokens) =
      (conditions >>= fun read => pure { Statement.ofTable .delete table with
        conditions := read }).run conditionTokens := by
  refine (run_table_demandWhere deletionOfTable _ _).trans ?_
  rw [if_pos List.mem_cons_self]
  exact run_bind_of_run_eq (run_whereClause_where conditionTokens)

end Clause

/-- Conditions are judged to be in order exactly if they are derived. -/
theorem judgedConditions_eq_ok_iff
    {tokens : List Token}
    {read : List Condition} :
    judgedConditions tokens = .ok read ↔ IsConditions read tokens := by
  simp [judgedConditions, Clause.map_fst_run_eq_ok_iff,
    Clause.run_conditions_eq_ok_iff]

namespace Statement

/-- A statement that makes something of its conditions and keeps them has the conditions,
or the fault, of the tokens after the word `WHERE`. -/
theorem map_conditions_ofTokens
    {kind : StatementKind}
    {tokens conditionTokens : List Token}
    {make : List Condition → Statement}
    (reads : (Clause.ofKind kind).run tokens =
      (Clause.conditions >>= fun read => pure (make read)).run conditionTokens)
    (kept : ∀ read, (make read).conditions = read) :
    (ofTokens (openingWords kind ++ tokens)).map conditions =
      judgedConditions conditionTokens := by
  rw [ofTokens, Clause.run_statement_openingWords, reads, Clause.map_fst_run_bind_pure,
    judgedConditions]
  cases Clause.conditions.run conditionTokens with
  | error fault => rfl
  | ok read => exact congrArg Except.ok (kept read.1)

/-- In a text no list of items labels a field that has the name of the wildcard. -/
theorem isItemList_of_tokensOf
    {items : List Clause.SelectedItem}
    {itemTokens conditionTokens : List Token}
    {table text : String}
    (itemsDerived : Separated [.comma] IsItem items itemTokens)
    (tokens : tokensOf text = selectionTokens itemTokens table conditionTokens) :
    IsItemList items itemTokens := by
  refine ⟨itemsDerived, fun labelled => not_labelsWildcardName_tokensOf text ?_⟩
  rw [tokens]
  exact labelled.trans (List.infix_append' _ itemTokens _)

/-- The conditions of a selection, of an update and of a deletion are the same, or are
refused for the same fault, if the tokens after the word `WHERE` are the same. In a text
every derived list of items will do. -/
theorem conditions_ofTokens_alike (conditionTokens : List Token) :
    ∃ outcome : Except SyntaxFault (List Condition),
      (∀ read, outcome = .ok read ↔ IsConditions read conditionTokens) ∧
      (∀ items itemTokens written assignmentTokens table,
        IsItemList items itemTokens →
        Separated [.comma] IsAssignment written assignmentTokens →
        (ofTokens (selectionTokens itemTokens table conditionTokens)).map conditions =
            outcome ∧
          (ofTokens (updateTokens table assignmentTokens conditionTokens)).map
              conditions = outcome ∧
          (ofTokens (deletionTokens table conditionTokens)).map conditions = outcome) ∧
      ∀ text items itemTokens table,
        Separated [.comma] IsItem items itemTokens →
        tokensOf text = selectionTokens itemTokens table conditionTokens →
          (ofText text).map conditions = outcome := by
  have selected {items itemTokens} (isItemList : IsItemList items itemTokens) table :
      (ofTokens (selectionTokens itemTokens table conditionTokens)).map conditions =
        judgedConditions conditionTokens :=
    map_conditions_ofTokens
      (Clause.run_selection_of_items isItemList table conditionTokens) fun _ => rfl
  refine ⟨judgedConditions conditionTokens, fun read => judgedConditions_eq_ok_iff, ?_, ?_⟩
  · intro items itemTokens written assignmentTokens table isItemList assignmentsDerived
    refine ⟨selected isItemList table, ?_, ?_⟩
    · exact map_conditions_ofTokens
        (Clause.run_update_of_assignments assignmentsDerived table conditionTokens)
        fun _ => rfl
    · exact map_conditions_ofTokens (Clause.run_deletion_where table conditionTokens)
        fun _ => rfl
  · intro text items itemTokens table itemsDerived tokens
    rw [ofText, tokens]
    exact selected (isItemList_of_tokensOf itemsDerived tokens) table

/-- After a condition and one more `WHERE`, all three are refused for a missing `AND`. -/
theorem conditions_ofTokens_alike_secondWhere :
    IsItemList [.wildcard, .field "b" (some "c")]
        [.asterisk, .comma, .ident "b", .keyword .AS, .ident "c"] ∧
      Separated [.comma] IsAssignment [("a", "1")]
        [.ident "a", .equal, .literal "1"] ∧
      tokensOf "select *, b as c from 't' where a = '1' where" =
        selectionTokens [.asterisk, .comma, .ident "b", .keyword .AS, .ident "c"] "t"
          [.ident "a", .equal, .literal "1", .keyword .WHERE] ∧
      (ofText "select *, b as c from 't' where a = '1' where").map conditions =
        .error .missingAnd ∧
      (ofTokens (selectionTokens
          [.asterisk, .comma, .ident "b", .keyword .AS, .ident "c"] "t"
          [.ident "a", .equal, .literal "1", .keyword .WHERE])).map conditions =
        .error .missingAnd ∧
      (ofTokens (updateTokens "t" [.ident "a", .equal, .literal "1"]
          [.ident "a", .equal, .literal "1", .keyword .WHERE])).map conditions =
        .error .missingAnd ∧
      (ofTokens (deletionTokens "t"
          [.ident "a", .equal, .literal "1", .keyword .WHERE])).map conditions =
        .error .missingAnd := by
  have items : Separated [.comma] IsItem [.wildcard, .field "b" (some "c")]
      [.asterisk, .comma, .ident "b", .keyword .AS, .ident "c"] :=
    .cons IsItem.wildcard
      (.single (IsItem.labelled (.ident (by decide)) (.ident (by decide))))
  have assignments : Separated [.comma] IsAssignment [("a", "1")]
      [.ident "a", .equal, .literal "1"] :=
    .single (IsAssignment.assign (.ident (by decide)) .literal)
  have tokens : tokensOf "select *, b as c from 't' where a = '1' where" =
      selectionTokens [.asterisk, .comma, .ident "b", .keyword .AS, .ident "c"] "t"
        [.ident "a", .equal, .literal "1", .keyword .WHERE] := by
    decide +kernel
  have isItemList := isItemList_of_tokensOf items tokens
  obtain ⟨outcome, -, alike, inText⟩ := conditions_ofTokens_alike
    [.ident "a", .equal, .literal "1", .keyword .WHERE]
  obtain ⟨selected, updated, deleted⟩ := alike _ _ _ _ "t" isItemList assignments
  have isFault : outcome = .error .missingAnd := by
    rw [← deleted]
    decide +kernel
  have fromText := inText _ _ _ _ items tokens
  rw [isFault] at selected updated deleted fromText
  exact ⟨isItemList, assignments, tokens, fromText, selected, updated, deleted⟩

end Statement

end SqlDialect
