import SqlDialect.Proofs.Faults.Reading
import SqlDialect.Proofs.Grammar.Clauses

/-!
# Faults of clauses

Each clause fails with a few faults of its own, whatever the tokens are. A clause
that is made of others has their faults (`Clause.FailsWithin.bind`), and so does a
list (`Clause.Series.failsWithin_clause`). Only the fault of a missing label says
more than where it was found: it names what was to be labelled, and
`Clause.Labels` says where that stands among the items.
-/

namespace SqlDialect

open Grammar

namespace Clause

/-- Whether a clause fails only with some faults. -/
def FailsWithin (clause : Clause α) (faults : List SyntaxFault) : Prop :=
  ∀ tokens fault, clause.run tokens = .error fault → fault ∈ faults

section FailsWithin

variable {faults : List SyntaxFault}

theorem failsWithin_pure (value : α) :
    (pure value : Clause α).FailsWithin faults := by
  intro tokens fault failed
  cases failed

/-- Where another token is expected only the fault that goes with it is found. -/
theorem failsWithin_expect
    {meaning : Token → Option α}
    {fault : SyntaxFault}
    (member : fault ∈ faults) :
    (expect meaning fault).FailsWithin faults := by
  intro tokens found failed
  rw [(run_expect_eq_error_iff.mp failed).1]
  exact member

theorem failsWithin_skip
    {expected : Token}
    {fault : SyntaxFault}
    (member : fault ∈ faults) :
    (skip expected fault).FailsWithin faults := by
  intro tokens found failed
  rw [(run_skip_eq_error_iff.mp failed).1]
  exact member

/-- Two clauses in a row have no faults but those of either. -/
theorem FailsWithin.bind
    {first : Clause α}
    {second : α → Clause β}
    (firstFails : first.FailsWithin faults)
    (secondFails : ∀ value, (second value).FailsWithin faults) :
    (first >>= second).FailsWithin faults := by
  intro tokens fault failed
  rcases run_bind_eq_error_iff.mp failed with
    firstFailed | ⟨value, between, -, secondFailed⟩
  · exact firstFails _ _ firstFailed
  · exact secondFails value _ _ secondFailed

theorem FailsWithin.mono
    {clause : Clause α}
    {more : List SyntaxFault}
    (fails : clause.FailsWithin faults)
    (subset : faults ⊆ more) :
    clause.FailsWithin more :=
  fun _ _ failed => subset (fails _ _ failed)

/-- A list has no faults but those of its items and of what follows an item. -/
theorem Series.failsWithin_clause
    {series : Series α}
    (itemFails : series.item.FailsWithin faults)
    (followingFails : series.following.FailsWithin faults) :
    series.clause.FailsWithin faults := by
  intro tokens fault failed
  refine Series.fault_of_read (motive := fun _ fault => fault ∈ faults) ?_ ?_ ?_ failed
  · exact fun itemFailed => itemFails _ _ itemFailed
  · exact fun _ followingFailed => followingFails _ _ followingFailed
  · exact fun _ _ others => others

end FailsWithin

/-! ### Conditions -/

/-- The faults of the conditions of a statement. -/
def conditionFaults : List SyntaxFault :=
  [.emptyWhere, .missingLeftOperand, .missingComparison, .missingRightOperand,
    .missingAnd]

theorem condition_failsWithin : condition.FailsWithin conditionFaults := by
  refine .bind (failsWithin_expect (by decide)) fun left => ?_
  refine .bind (failsWithin_expect (by decide)) fun comparison => ?_
  exact .bind (failsWithin_expect (by decide)) fun right => failsWithin_pure _

theorem afterCondition_failsWithin : afterCondition.FailsWithin conditionFaults := by
  intro tokens fault failed
  simp only [StateT.run] at failed
  revert failed
  fun_cases afterCondition tokens <;> rintro ⟨⟩
  decide

/-- The faults of conditions are those of one of them, of what is between two, and of
there being none. -/
theorem conditions_failsWithin : conditions.FailsWithin conditionFaults := by
  intro tokens fault failed
  cases tokens with
  | nil =>
      rw [run_conditions_nil] at failed
      cases failed
      decide
  | cons token rest =>
      rw [run_conditions_cons] at failed
      exact Series.failsWithin_clause condition_failsWithin afterCondition_failsWithin
        _ _ failed

theorem whereClause_failsWithin :
    whereClause.FailsWithin (.missingWhere :: conditionFaults) := by
  refine .bind (failsWithin_skip (by decide)) fun _ => ?_
  exact conditions_failsWithin.mono (List.subset_cons_self _ _)

/-- The end of the tokens is no fault where conditions may be left out. -/
theorem optionalWhereClause_failsWithin :
    optionalWhereClause.FailsWithin (.missingWhere :: conditionFaults) := by
  intro tokens fault failed
  cases tokens with
  | nil => cases failed
  | cons token rest => exact whereClause_failsWithin _ _ failed

/-- Looking ahead for the word WHERE reads no token, so that only its absence is found. -/
theorem demandWhere_failsWithin : demandWhere.FailsWithin [.absentWhere] := by
  intro tokens fault failed
  rw [run_demandWhere] at failed
  split at failed <;> cases failed
  decide

/-- What follows the demand for the word `WHERE` is read where that word is to come. -/
theorem run_demandWhere_bind
    (clause : Clause α)
    (tokens : List Token) :
    (demandWhere >>= fun _ => clause).run tokens =
      if .keyword .WHERE ∈ tokens then clause.run tokens
      else .error .absentWhere := by
  by_cases isThere : .keyword .WHERE ∈ tokens
  · rw [if_pos isThere]
    exact run_bind_of_ok (run_demandWhere_eq_ok_iff.mpr ⟨isThere, rfl⟩)
  · rw [if_neg isThere]
    apply run_bind_of_error
    rw [run_demandWhere, if_neg isThere]

/-! ### Selections -/

/-- Tokens that go on, after any number of items of a selection, with what has a
name and with the word for a label of it. -/
inductive Labels (selected : String) : List Token → Prop
  | wildcard
      {rest : List Token}
      (isWildcard : selected = wildcardName) :
      Labels selected (.asterisk :: .keyword .AS :: rest)
  | field
      {rest : List Token}
      (noQuote : beginsWithQuote selected = false) :
      Labels selected (.ident selected :: .keyword .AS :: rest)
  | later
      {item : SelectedItem}
      {itemTokens rest : List Token}
      (derived : IsItem item itemTokens)
      (labels : Labels selected rest) :
      Labels selected (itemTokens ++ .comma :: rest)

/-- The faults of the items of some tokens, and of what follows an item. -/
def IsItemFault (tokens : List Token) (fault : SyntaxFault) : Prop :=
  fault ∈ [SyntaxFault.missingTable, .missingSelectedField, .missingFrom] ∨
    ∃ selected, fault = .missingLabel selected ∧ Labels selected tokens

/-- What is wrong with a label is reported as the absence of a table if the tokens end
after AS, and with the name of the field otherwise. -/
theorem labelFault_cases (selected : String) (tokens : List Token) :
    labelFault selected tokens = .missingTable ∨
      labelFault selected tokens = .missingLabel selected := by
  unfold labelFault
  split
  · exact Or.inl rfl
  · exact Or.inr rfl

/-- A fault of a label names the field that is to have it, unless the tokens end there. -/
theorem isItemFault_labelFault
    {selected : String}
    {tokens : List Token}
    (labels : Labels selected tokens)
    (rest : List Token) :
    IsItemFault tokens (labelFault selected rest) := by
  rcases labelFault_cases selected rest with isTable | isLabel
  · rw [isTable]
    exact Or.inl (by decide)
  · rw [isLabel]
    exact Or.inr ⟨selected, rfl, labels⟩

/-- An item that is refused is no field, or it has no label after AS. -/
theorem isItemFault_of_selectedItem
    {tokens : List Token}
    {fault : SyntaxFault}
    (failed : selectedItem.run tokens = .error fault) :
    IsItemFault tokens fault := by
  simp only [StateT.run] at failed
  revert failed
  fun_cases selectedItem tokens with
  | case1 =>
      rintro ⟨⟩
      exact Or.inl (by decide)
  | case2 tail =>
      fun_cases wildcardItem tail with
      | case1 rest =>
          rintro ⟨⟩
          exact isItemFault_labelFault (.wildcard rfl) rest
      | case2 => rintro ⟨⟩
  | case3 first tail _ name named =>
      obtain ⟨rfl, noQuote⟩ := Token.field?_eq_some_iff.mp named
      fun_cases fieldItem name tail with
      | case1 rest =>
          rintro ⟨⟩
          exact isItemFault_labelFault (.field noQuote) rest
      | case2 => rintro ⟨⟩
      | case3 rest _ labelFaultFound labelFailed =>
          rintro ⟨⟩
          rw [(run_expect_eq_error_iff.mp labelFailed).1]
          exact isItemFault_labelFault (.field noQuote) rest
      | case4 => rintro ⟨⟩
  | case4 =>
      rintro ⟨⟩
      exact Or.inl (by decide)

/-- The items of a selection have the faults of one item, of any place in the list, and of
what separates two. -/
theorem isItemFault_of_items
    {tokens : List Token}
    {fault : SyntaxFault}
    (failed : selectedItemSeries.clause.run tokens = .error fault) :
    IsItemFault tokens fault := by
  refine Series.fault_of_read (motive := IsItemFault) ?_ ?_ ?_ failed
  · exact isItemFault_of_selectedItem
  · intro tokens item afterItem fault _ followingFailed
    revert followingFailed
    change afterSelectedItem afterItem = .error fault → _
    fun_cases afterSelectedItem afterItem <;> rintro ⟨⟩ <;> exact Or.inl (by decide)
  · intro tokens item afterItem between fault itemRead followed others
    rcases others with member | ⟨selected, isLabel, labels⟩
    · exact Or.inl member
    · obtain ⟨front, rfl, derived, -⟩ := isItem_of_selectedItem itemRead
      rw [run_afterSelectedItem_another.mp followed]
      exact Or.inr ⟨selected, isLabel, .later derived labels⟩

/-- The faults of a selection, but for those of labels. -/
def selectionFaults : List SyntaxFault :=
  [.missingTable, .missingSelectedField, .missingFrom, .missingWhere] ++
    conditionFaults

/-- The faults of a selection are those of a list, and those of labels only where AS
follows a name among its items. -/
theorem fault_of_selection
    {tokens : List Token}
    {fault : SyntaxFault}
    (failed : selection.run tokens = .error fault) :
    fault ∈ selectionFaults ∨
      ∃ selected, fault = .missingLabel selected ∧ Labels selected tokens := by
  rcases run_bind_eq_error_iff.mp failed with
    itemsFailed | ⟨items, between, -, restFailed⟩
  · refine (isItemFault_of_items itemsFailed).imp_left fun member => ?_
    have subset : [SyntaxFault.missingTable, .missingSelectedField, .missingFrom] ⊆
        selectionFaults := by decide
    exact subset member
  · have restFails : (do
        let table ← table
        let conditions ← optionalWhereClause
        return selectionOf items table conditions).FailsWithin selectionFaults := by
      refine .bind (failsWithin_expect (by decide)) fun table => ?_
      exact .bind (optionalWhereClause_failsWithin.mono (by decide)) fun _ =>
        failsWithin_pure _
    exact Or.inl (restFails _ _ restFailed)

/-! ### Statements about a table -/

/-- A clause that begins with a table: without one it says so, and with one it has
other faults. -/
structure FailsAfterTable
    (clause : Clause α)
    (faults : List SyntaxFault) : Prop where
  missing :
    ∀ {tokens},
      (∀ name rest, tokens ≠ .literal name :: rest) →
        clause.run tokens = .error .missingTable
  present :
    ∀ {name rest fault},
      clause.run (.literal name :: rest) = .error fault → fault ∈ faults

/-- A clause that begins with a table finds its other faults only after one. -/
theorem FailsWithin.table_bind
    {faults : List SyntaxFault}
    {body : String → Clause α}
    (bodyFails : ∀ name, (body name).FailsWithin faults) :
    (table >>= body).FailsAfterTable faults where
  missing := by
    intro tokens noTable
    apply run_bind_of_error
    refine run_expect_eq_error_iff.mpr ⟨rfl, fun token first => ?_⟩
    obtain ⟨rest, rfl⟩ := List.head?_eq_some_iff.mp first
    rw [Option.eq_none_iff_forall_ne_some]
    intro name isValue
    rw [Token.value?_eq_some_iff] at isValue
    exact noTable name rest (by rw [isValue])
  present := by
    intro name rest fault failed
    rw [run_bind_of_ok (run_table_eq_ok_iff.mpr rfl)] at failed
    exact bodyFails name _ _ failed

theorem FailsAfterTable.failsWithin
    {clause : Clause α}
    {faults : List SyntaxFault}
    (fails : clause.FailsAfterTable faults) :
    clause.FailsWithin (.missingTable :: faults) := by
  intro tokens fault failed
  by_cases noTable : ∀ name rest, tokens ≠ .literal name :: rest
  · rw [fails.missing noTable] at failed
    cases failed
    exact List.mem_cons_self
  · push Not at noTable
    obtain ⟨name, rest, rfl⟩ := noTable
    exact List.mem_cons_of_mem _ (fails.present failed)

/-- The fault of a missing table is found exactly where no table stands. -/
theorem FailsAfterTable.run_eq_missingTable_iff
    {clause : Clause α}
    {faults : List SyntaxFault}
    (fails : clause.FailsAfterTable faults)
    (otherFaults : .missingTable ∉ faults)
    {tokens : List Token} :
    clause.run tokens = .error .missingTable ↔
      ∀ name rest, tokens ≠ .literal name :: rest := by
  refine ⟨fun failed name rest isTable => ?_, fails.missing⟩
  rw [isTable] at failed
  exact otherFaults (fails.present failed)

/-- The faults of an update after its table. -/
def updateFaults : List SyntaxFault :=
  [.absentWhere, .missingSet, .missingAssignedField, .missingAssignmentSign,
    .missingAssignedValue, .missingAssignmentComma] ++ conditionFaults

/-- The faults of the assignments of an update. -/
def assignmentFaults : List SyntaxFault :=
  [.missingAssignedField, .missingAssignmentSign, .missingAssignedValue,
    .missingAssignmentComma]

theorem assignment_failsWithin : assignment.FailsWithin assignmentFaults := by
  refine .bind (failsWithin_expect (by decide)) fun field => ?_
  refine .bind (failsWithin_skip (by decide)) fun _ => ?_
  exact .bind (failsWithin_expect (by decide)) fun value => failsWithin_pure _

theorem afterAssignment_failsWithin :
    afterAssignment.FailsWithin assignmentFaults := by
  intro tokens fault failed
  simp only [StateT.run] at failed
  revert failed
  fun_cases afterAssignment tokens <;> rintro ⟨⟩
  decide

theorem assignments_failsWithin :
    assignmentSeries.clause.FailsWithin assignmentFaults :=
  Series.failsWithin_clause assignment_failsWithin afterAssignment_failsWithin

/-- After its table an update has the faults of its assignments and of its conditions, and
no longer the absence of a table. -/
theorem update_failsAfterTable : update.FailsAfterTable updateFaults := by
  refine FailsWithin.table_bind fun name => ?_
  refine .bind (demandWhere_failsWithin.mono (by decide)) fun _ => ?_
  refine .bind (failsWithin_skip (by decide)) fun _ => ?_
  refine .bind (assignments_failsWithin.mono (by decide)) fun assignments => ?_
  exact .bind (conditions_failsWithin.mono (by decide)) fun _ => failsWithin_pure _

/-- The faults of a deletion after its table. -/
def deletionFaults : List SyntaxFault :=
  .absentWhere :: .missingWhere :: conditionFaults

/-- After its table a deletion has the faults of its conditions only. -/
theorem deletion_failsAfterTable : deletion.FailsAfterTable deletionFaults := by
  refine FailsWithin.table_bind fun name => ?_
  refine .bind (demandWhere_failsWithin.mono (by decide)) fun _ => ?_
  refine .bind (whereClause_failsWithin.mono (List.subset_cons_self _ _)) fun _ => ?_
  exact failsWithin_pure _

/-- The faults of an insertion after its table. -/
def insertionFaults : List SyntaxFault :=
  [.missingRows, .wildcardInserted, .missingRowStart, .missingRowComma,
    .missingRowValue, .missingValueComma, .unequalCounts]

/-- The faults of the rows of an insertion. -/
def rowFaults : List SyntaxFault :=
  [.missingRowStart, .missingRowComma, .missingRowValue, .missingValueComma,
    .unequalCounts]

/-- Looking ahead for an asterisk among the fields reads no token, so that only its
presence is found. -/
theorem refuseWildcard_failsWithin :
    refuseWildcard.FailsWithin [.wildcardInserted] := by
  intro tokens fault failed
  rw [run_refuseWildcard] at failed
  split at failed <;> cases failed
  decide

theorem afterInsertedField_failsWithin :
    afterInsertedField.FailsWithin [.missingRows] := by
  intro tokens fault failed
  simp only [StateT.run] at failed
  revert failed
  fun_cases afterInsertedField tokens <;> rintro ⟨⟩
  decide

/-- Anything wrong with the fields of an insertion is reported as the absence of rows. -/
theorem insertedFields_failsWithin :
    insertedFieldSeries.clause.FailsWithin [.missingRows] :=
  Series.failsWithin_clause (failsWithin_expect (by decide))
    afterInsertedField_failsWithin

/-- The values of a row lack a value or a comma. -/
theorem fault_of_rowValues
    {tokens : List Token}
    {fault : SyntaxFault}
    (failed : rowValues tokens = .error fault) :
    fault ∈ [SyntaxFault.missingRowValue, .missingValueComma] := by
  induction tokens using rowValues.induct with
  | case1 | case2 | case3 => simp [rowValues] at failed
  | case4 value tail values afterRow innerRead => simp [rowValues, innerRead] at failed
  | case5 value tail innerFault innerFailed inductionHypothesis =>
      simp only [rowValues, innerFailed, Except.error.injEq] at failed
      exact inductionHypothesis (failed ▸ innerFailed)
  | case6 => simp_all [rowValues]
  | case7 => simp_all [rowValues]

/-- A row is not opened, lacks something within, or has another number of values than
there are fields. -/
theorem row_failsWithin (width : Nat) : (row width).FailsWithin rowFaults := by
  intro tokens fault failed
  simp only [StateT.run, row] at failed
  cases body : rowBody tokens with
  | error bodyFault =>
      rw [body] at failed
      cases failed
      revert body
      fun_cases rowBody tokens with
      | case1 => simp
      | case2 =>
          intro valuesFailed
          have subset : [SyntaxFault.missingRowValue, .missingValueComma] ⊆
              rowFaults := by decide
          exact subset (fault_of_rowValues valuesFailed)
  | ok read =>
      simp only [body] at failed
      split at failed
      · split at failed <;> cases failed
        decide
      · cases failed
        decide

theorem afterRow_failsWithin : afterRow.FailsWithin rowFaults := by
  intro tokens fault failed
  simp only [StateT.run] at failed
  revert failed
  fun_cases afterRow tokens <;> rintro ⟨⟩ <;> decide

theorem rows_failsWithin (width : Nat) :
    (rowSeries width).clause.FailsWithin rowFaults :=
  Series.failsWithin_clause (row_failsWithin width) afterRow_failsWithin

/-- After its table an insertion has the faults of its fields and of its rows. -/
theorem insertion_failsAfterTable : insertion.FailsAfterTable insertionFaults := by
  refine FailsWithin.table_bind fun name => ?_
  refine .bind (failsWithin_skip (by decide)) fun _ => ?_
  refine .bind (refuseWildcard_failsWithin.mono (by decide)) fun _ => ?_
  refine .bind (insertedFields_failsWithin.mono (by decide)) fun fields => ?_
  refine .bind (failsWithin_skip (by decide)) fun _ => ?_
  refine .bind (failsWithin_skip (by decide)) fun _ => ?_
  exact .bind ((rows_failsWithin _).mono (by decide)) fun _ => failsWithin_pure _

end Clause

end SqlDialect
