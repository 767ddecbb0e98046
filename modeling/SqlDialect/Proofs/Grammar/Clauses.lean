import SqlDialect.Proofs.Grammar.Collected
import SqlDialect.Proofs.Grammar.Series

/-!
# Clauses and derivations

Each clause reads exactly the tokens that the grammar derives for its part of a
statement. The lists among these parts are read as `Clause.Series.Follows` says,
so what is left is one lemma about the items of each list and one about what may
follow them.
-/

namespace SqlDialect
namespace Grammar

/-! ## Single tokens -/

/-- A name is the one token that stands for a field. -/
theorem name_iff
    {name : String}
    {tokens : List Token} :
    Name name tokens ↔ ∃ token, tokens = [token] ∧ token.field? = some name := by
  simp only [Token.field?_eq_some_iff]
  constructor
  · rintro ⟨noQuote⟩
    exact ⟨_, rfl, rfl, noQuote⟩
  · rintro ⟨token, rfl, rfl, noQuote⟩
    exact .ident noQuote

theorem value_iff
    {value : String}
    {tokens : List Token} :
    Value value tokens ↔ ∃ token, tokens = [token] ∧ token.value? = some value := by
  simp only [Token.value?_eq_some_iff]
  constructor
  · rintro ⟨⟩
    exact ⟨_, rfl, rfl⟩
  · rintro ⟨token, rfl, rfl⟩
    exact .literal

/-- An operand is a single token, a name or a literal. -/
theorem isOperand_iff
    {operand : Operand}
    {tokens : List Token} :
    IsOperand operand tokens ↔
      ∃ token, tokens = [token] ∧ token.operand? = some operand := by
  constructor
  · rintro (named | valued)
    · obtain ⟨token, rfl, meaning⟩ := name_iff.mp named
      exact ⟨token, rfl, by rw [Token.operand?, meaning]⟩
    · obtain ⟨⟩ := valued
      exact ⟨_, rfl, rfl⟩
  · rintro ⟨token, rfl, meaning⟩
    rcases Token.operand?_eq_some_iff.mp meaning with
      ⟨name, named, rfl⟩ | ⟨-, value, valued, rfl⟩
    · exact .field (name_iff.mpr ⟨token, rfl, named⟩)
    · exact .value (value_iff.mpr ⟨token, rfl, valued⟩)

/-- A condition consists of three tokens, and their meanings make it up. -/
theorem isCondition_iff
    {condition : Condition}
    {tokens : List Token} :
    IsCondition condition tokens ↔
      ∃ left comparison right,
        tokens = [left, comparison, right] ∧
          left.operand? = some condition.left ∧
          comparison.comparison? = some condition.comparison ∧
          right.operand? = some condition.right := by
  constructor
  · rintro ⟨leftDerived, rightDerived⟩
    obtain ⟨left, rfl, leftMeaning⟩ := isOperand_iff.mp leftDerived
    obtain ⟨right, rfl, rightMeaning⟩ := isOperand_iff.mp rightDerived
    exact ⟨left, _, right, rfl, leftMeaning,
      Token.comparison?_eq_some_iff.mpr rfl, rightMeaning⟩
  · obtain ⟨leftOperand, comparison, rightOperand⟩ := condition
    rintro ⟨left, sign, right, rfl, leftMeaning, signMeaning, rightMeaning⟩
    rw [Token.comparison?_eq_some_iff.mp signMeaning]
    exact .compare (isOperand_iff.mpr ⟨left, rfl, leftMeaning⟩)
      (isOperand_iff.mpr ⟨right, rfl, rightMeaning⟩)

/-- An assignment consists of three tokens, with the equals sign between the field and its
value. -/
theorem isAssignment_iff
    {assignment : String × String}
    {tokens : List Token} :
    IsAssignment assignment tokens ↔
      ∃ field value,
        tokens = [field, .equal, value] ∧
          field.field? = some assignment.1 ∧
          value.value? = some assignment.2 := by
  constructor
  · rintro ⟨named, valued⟩
    obtain ⟨field, rfl, fieldMeaning⟩ := name_iff.mp named
    obtain ⟨value, rfl, valueMeaning⟩ := value_iff.mp valued
    exact ⟨field, value, rfl, fieldMeaning, valueMeaning⟩
  · obtain ⟨name, text⟩ := assignment
    rintro ⟨field, value, rfl, fieldMeaning, valueMeaning⟩
    exact .assign (name_iff.mpr ⟨field, rfl, fieldMeaning⟩)
      (value_iff.mpr ⟨value, rfl, valueMeaning⟩)

end Grammar

open Grammar

namespace Clause

/-! ## Conditions -/

/-- Conditions are read as a list with AND between them. -/
theorem conditionSeries_follows :
    conditionSeries.Follows [.keyword .AND] IsCondition where
  item := by
    intro tokens read rest _ _
    constructor
    · intro itemRead
      obtain ⟨left, comparison, right, rfl, meanings⟩ :=
        run_condition_eq_ok_iff.mp itemRead
      exact ⟨_, rfl, isCondition_iff.mpr ⟨left, comparison, right, rfl, meanings⟩⟩
    · rintro ⟨front, rfl, derived⟩
      obtain ⟨left, comparison, right, rfl, meanings⟩ := isCondition_iff.mp derived
      exact run_condition_eq_ok_iff.mpr ⟨left, comparison, right, rfl, meanings⟩
  another := run_afterCondition_another

/-- Conditions end only with the tokens. -/
theorem run_afterCondition_finished
    {tokens rest : List Token} :
    afterCondition.run tokens = .ok (.finished, rest) ↔
      tokens = [] ∧ rest = [] := by
  simp only [StateT.run]
  fun_cases afterCondition tokens with
  | case1 =>
      constructor
      · rintro ⟨⟩
        exact ⟨rfl, rfl⟩
      · rintro ⟨-, rfl⟩
        rfl
  | case2 => simp
  | case3 tokens notEmpty =>
      constructor
      · rintro ⟨⟩
      · rintro ⟨empty, -⟩
        exact absurd empty notEmpty

/-- Conditions are read up to the end. -/
theorem run_conditions_eq_ok_iff
    {tokens rest : List Token}
    {read : List Condition} :
    conditions.run tokens = .ok (read, rest) ↔
      IsConditions read tokens ∧ rest = [] := by
  have series : conditionSeries.read tokens = .ok (read, rest) ↔
      IsConditions read tokens ∧ rest = [] := by
    rw [conditionSeries_follows.read_eq_ok_iff]
    constructor
    · rintro ⟨front, last, rfl, separated, finished⟩
      obtain ⟨rfl, rfl⟩ := run_afterCondition_finished.mp finished
      exact ⟨by rwa [List.append_nil], rfl⟩
    · rintro ⟨separated, rfl⟩
      exact ⟨tokens, [], (List.append_nil tokens).symm, separated,
        run_afterCondition_finished.mpr ⟨rfl, rfl⟩⟩
  cases tokens with
  | nil =>
      rw [run_conditions_nil]
      constructor
      · rintro ⟨⟩
      · intro derived
        -- There is no condition without tokens.
        have seriesRead := series.mpr derived
        rw [Series.read] at seriesRead
        cases seriesRead
  | cons token tokens => exact series

/-- Conditions after WHERE are read up to the last token. -/
theorem run_whereClause_eq_ok_iff
    {tokens rest : List Token}
    {read : List Condition} :
    whereClause.run tokens = .ok (read, rest) ↔
      ∃ conditionTokens,
        tokens = .keyword .WHERE :: conditionTokens ∧
          IsConditions read conditionTokens ∧ rest = [] := by
  simp only [whereClause, run_bind_eq_ok_iff, Unique.exists_iff,
    PUnit.default_eq_unit, run_skip_eq_ok_iff, run_conditions_eq_ok_iff]

/-- Conditions that may be left out are read up to the last token, or there is none. -/
theorem run_optionalWhereClause_eq_ok_iff
    {tokens rest : List Token}
    {read : List Condition} :
    optionalWhereClause.run tokens = .ok (read, rest) ↔
      IsOptionalWhere read tokens ∧ rest = [] := by
  cases tokens with
  | nil =>
      rw [run_optionalWhereClause_nil]
      constructor
      · rintro ⟨⟩
        exact ⟨.absent, rfl⟩
      · rintro ⟨⟨⟩, rfl⟩
        rfl
  | cons token tokens =>
      rw [run_optionalWhereClause_cons, run_whereClause_eq_ok_iff]
      constructor
      · rintro ⟨conditionTokens, whole, derived, rfl⟩
        rw [whole]
        exact ⟨.present derived, rfl⟩
      · rintro ⟨⟨derived⟩, rfl⟩
        exact ⟨tokens, rfl, ‹_›, rfl⟩

/-- The demand for WHERE is met by that word anywhere among the tokens, none of which is
read. -/
theorem run_demandWhere_eq_ok_iff
    {tokens rest : List Token} :
    demandWhere.run tokens = .ok ((), rest) ↔
      .keyword .WHERE ∈ tokens ∧ rest = tokens := by
  rw [run_demandWhere]
  split <;> simp_all [eq_comm]

theorem run_table_eq_ok_iff
    {tokens rest : List Token}
    {read : String} :
    table.run tokens = .ok (read, rest) ↔ tokens = .literal read :: rest := by
  simp only [table, run_expect_eq_ok_iff, Token.value?_eq_some_iff]
  simp

/-! ## Selections -/

/-- Whether an item is not a label of a field with the wildcard's name. -/
def SelectedItem.LabelsNoWildcard (item : SelectedItem) : Prop :=
  ∀ label, item ≠ .field wildcardName (some label)

/-- An asterisk without AS after it selects everything. -/
theorem wildcardItem_of_head?_ne
    {tokens : List Token}
    (noLabel : tokens.head? ≠ some (.keyword .AS)) :
    wildcardItem tokens = .ok (.wildcard, tokens) := by
  fun_cases wildcardItem tokens with
  | case1 => simp at noLabel
  | case2 => rfl

/-- A field without AS after it has no label. -/
theorem fieldItem_of_head?_ne
    {tokens : List Token}
    (noLabel : tokens.head? ≠ some (.keyword .AS))
    (name : String) :
    fieldItem name tokens = .ok (.field name none, tokens) := by
  fun_cases fieldItem name tokens with
  | case1 | case2 | case3 => simp at noLabel
  | case4 => rfl

/-- A field may be given a label unless it has the wildcard's name. -/
theorem fieldItem_label
    {name label : String}
    {token : Token}
    (notWildcard : name ≠ wildcardName)
    (meaning : token.field? = some label)
    (rest : List Token) :
    fieldItem name (.keyword .AS :: token :: rest) =
      .ok (.field name (some label), rest) := by
  have labelRead (fault : SyntaxFault) :
      expect Token.field? fault (token :: rest) = .ok (label, rest) :=
    run_expect_eq_ok_iff.mpr ⟨token, rfl, meaning⟩
  rw [fieldItem, if_neg notWildcard, labelRead]

/-- What has been read when an item has been read. -/
theorem isItem_of_selectedItem
    {tokens rest : List Token}
    {item : SelectedItem}
    (read : selectedItem tokens = .ok (item, rest)) :
    ∃ front, tokens = front ++ rest ∧ IsItem item front ∧ item.LabelsNoWildcard := by
  revert read
  fun_cases selectedItem tokens with
  | case1 => simp
  | case2 tail =>
      fun_cases wildcardItem tail with
      | case1 => simp
      | case2 =>
          rintro ⟨⟩
          exact ⟨[.asterisk], rfl, .wildcard, by simp [SelectedItem.LabelsNoWildcard]⟩
  | case3 first tail _ name named =>
      have nameDerived := name_iff.mpr ⟨first, rfl, named⟩
      fun_cases fieldItem name tail with
      | case1 => simp
      | case2 afterName notWildcard label afterLabel labelRead =>
          rintro ⟨⟩
          obtain ⟨token, rfl, meaning⟩ := run_expect_eq_ok_iff.mp labelRead
          refine ⟨[first, .keyword .AS, token], rfl, ?_, ?_⟩
          · exact .labelled nameDerived (name_iff.mpr ⟨token, rfl, meaning⟩)
          · intro other same
            cases same
            exact notWildcard rfl
      | case3 => simp
      | case4 =>
          rintro ⟨⟩
          exact ⟨[first], rfl, .field nameDerived, by simp [SelectedItem.LabelsNoWildcard]⟩
  | case4 => simp

theorem selectedItem_of_field?
    {token : Token}
    {name : String}
    (meaning : token.field? = some name)
    (rest : List Token) :
    selectedItem (token :: rest) = fieldItem name rest := by
  obtain ⟨rfl, noQuote⟩ := Token.field?_eq_some_iff.mp meaning
  rw [selectedItem, meaning]
  simp

/-- An item is read where no label can follow. -/
theorem selectedItem_of_isItem
    {tokens rest : List Token}
    {item : SelectedItem}
    (derived : IsItem item tokens)
    (labels : item.LabelsNoWildcard)
    (noLabel : rest.head? ≠ some (.keyword .AS)) :
    selectedItem (tokens ++ rest) = .ok (item, rest) := by
  cases derived with
  | wildcard => exact wildcardItem_of_head?_ne noLabel
  | @field name _ named =>
      obtain ⟨token, rfl, meaning⟩ := name_iff.mp named
      rw [List.singleton_append, selectedItem_of_field? meaning]
      exact fieldItem_of_head?_ne noLabel name
  | @labelled name label _ _ named labelNamed =>
      obtain ⟨token, rfl, meaning⟩ := name_iff.mp named
      obtain ⟨labelToken, rfl, labelMeaning⟩ := name_iff.mp labelNamed
      have notWildcard : name ≠ wildcardName := by
        rintro rfl
        exact labels label rfl
      rw [List.singleton_append, List.cons_append, selectedItem_of_field? meaning]
      exact fieldItem_label notWildcard labelMeaning rest

/-- What may follow an item does not begin with AS, so that it is not taken for a
label. -/
theorem head?_ne_of_afterSelectedItem
    {tokens : List Token}
    {following : Following × List Token}
    (followed : afterSelectedItem tokens = .ok following) :
    tokens.head? ≠ some (.keyword .AS) := by
  rintro isLabel
  obtain ⟨rest, rfl⟩ := List.head?_eq_some_iff.mp isLabel
  cases followed

/-- The items of a selection end only at FROM. -/
theorem run_afterSelectedItem_finished
    {tokens rest : List Token} :
    afterSelectedItem.run tokens = .ok (.finished, rest) ↔
      tokens = .keyword .FROM :: rest := by
  simp only [StateT.run]
  fun_cases afterSelectedItem tokens <;> grind

/-- The items of a selection are read as a list with commas between them, of which none
labels the wildcard's name. -/
theorem selectedItemSeries_follows :
    selectedItemSeries.Follows [.comma]
      fun item tokens => IsItem item tokens ∧ item.LabelsNoWildcard where
  item := by
    intro tokens item rest following followed
    constructor
    · exact isItem_of_selectedItem
    · rintro ⟨front, rfl, derived, labels⟩
      exact selectedItem_of_isItem derived labels
        (head?_ne_of_afterSelectedItem followed)
  another := run_afterSelectedItem_another

/-- A selection is read as it is derived, unless it labels a field that has the
wildcard's name. -/
theorem run_selection_eq_ok_iff
    {tokens rest : List Token}
    {read : Statement} :
    selection.run tokens = .ok (read, rest) ↔
      ∃ items table conditions itemTokens whereTokens,
        tokens = itemTokens ++ .keyword .FROM :: .literal table :: whereTokens ∧
          Separated [.comma] IsItem items itemTokens ∧
          (∀ item ∈ items, item.LabelsNoWildcard) ∧
          IsOptionalWhere conditions whereTokens ∧
          read = selectionOf items table conditions ∧
          rest = [] := by
  simp only [selection, run_bind_eq_ok_iff, run_table_eq_ok_iff,
    run_optionalWhereClause_eq_ok_iff, run_pure_eq_ok_iff]
  constructor
  · rintro ⟨items, afterItems, itemsRead, table, whereTokens, rfl, conditions, _,
      ⟨whereDerived, rfl⟩, rfl, rfl⟩
    obtain ⟨itemTokens, last, rfl, separated, finished⟩ :=
      selectedItemSeries_follows.read_eq_ok_iff.mp itemsRead
    rw [run_afterSelectedItem_finished.mp finished]
    obtain ⟨itemsDerived, labels⟩ := Separated.and_forall.mp separated
    exact ⟨items, table, conditions, itemTokens, whereTokens, rfl, itemsDerived,
      labels, whereDerived, rfl, rfl⟩
  · rintro ⟨items, table, conditions, itemTokens, whereTokens, rfl, itemsDerived,
      labels, whereDerived, rfl, rfl⟩
    refine ⟨items, .literal table :: whereTokens, ?_, table, whereTokens, rfl,
      conditions, [], ⟨whereDerived, rfl⟩, rfl, rfl⟩
    exact selectedItemSeries_follows.read_eq_ok_iff.mpr
      ⟨itemTokens, _, rfl, Separated.and_forall.mpr ⟨itemsDerived, labels⟩,
        run_afterSelectedItem_finished.mpr rfl⟩

/-! ## Updates and deletions -/

theorem assignmentSeries_follows :
    assignmentSeries.Follows [.comma] IsAssignment where
  item := by
    intro tokens read rest _ _
    constructor
    · intro itemRead
      obtain ⟨field, value, rfl, meanings⟩ := run_assignment_eq_ok_iff.mp itemRead
      exact ⟨_, rfl, isAssignment_iff.mpr ⟨field, value, rfl, meanings⟩⟩
    · rintro ⟨front, rfl, derived⟩
      obtain ⟨field, value, rfl, meanings⟩ := isAssignment_iff.mp derived
      exact run_assignment_eq_ok_iff.mpr ⟨field, value, rfl, meanings⟩
  another := run_afterAssignment_another

/-- The assignments of an update end only at WHERE, which is read with them. -/
theorem run_afterAssignment_finished
    {tokens rest : List Token} :
    afterAssignment.run tokens = .ok (.finished, rest) ↔
      tokens = .keyword .WHERE :: rest := by
  simp only [StateT.run]
  fun_cases afterAssignment tokens <;> grind

/-- An update is read as it is derived. -/
theorem run_update_eq_ok_iff
    {tokens rest : List Token}
    {read : Statement} :
    update.run tokens = .ok (read, rest) ↔
      ∃ table written conditions assignmentTokens conditionTokens,
        tokens = .literal table :: .keyword .SET ::
            (assignmentTokens ++ .keyword .WHERE :: conditionTokens) ∧
          Separated [.comma] IsAssignment written assignmentTokens ∧
          IsConditions conditions conditionTokens ∧
          read = { Statement.ofTable .update table with
            assignments := collectAssignments written
            conditions := conditions } ∧
          rest = [] := by
  simp only [update, run_bind_eq_ok_iff, Unique.exists_iff, PUnit.default_eq_unit,
    run_table_eq_ok_iff, run_demandWhere_eq_ok_iff, run_skip_eq_ok_iff,
    run_conditions_eq_ok_iff, run_pure_eq_ok_iff]
  constructor
  · rintro ⟨table, _, rfl, _, ⟨-, rfl⟩, afterSet, rfl, written, afterWritten,
      writtenRead, conditions, _, ⟨conditionsDerived, rfl⟩, rfl, rfl⟩
    obtain ⟨assignmentTokens, last, rfl, separated, finished⟩ :=
      assignmentSeries_follows.read_eq_ok_iff.mp writtenRead
    rw [run_afterAssignment_finished.mp finished]
    exact ⟨table, written, conditions, assignmentTokens, afterWritten, rfl, separated,
      conditionsDerived, rfl, rfl⟩
  · rintro ⟨table, written, conditions, assignmentTokens, conditionTokens, rfl,
      separated, conditionsDerived, rfl, rfl⟩
    refine ⟨table, _, rfl, _, ⟨by simp, rfl⟩, _, rfl, written, conditionTokens, ?_,
      conditions, [], ⟨conditionsDerived, rfl⟩, rfl, rfl⟩
    exact assignmentSeries_follows.read_eq_ok_iff.mpr
      ⟨assignmentTokens, _, rfl, separated, run_afterAssignment_finished.mpr rfl⟩

/-- A deletion is read as it is derived. -/
theorem run_deletion_eq_ok_iff
    {tokens rest : List Token}
    {read : Statement} :
    deletion.run tokens = .ok (read, rest) ↔
      ∃ table conditions conditionTokens,
        tokens = .literal table :: .keyword .WHERE :: conditionTokens ∧
          IsConditions conditions conditionTokens ∧
          read = { Statement.ofTable .delete table with conditions := conditions } ∧
          rest = [] := by
  simp only [deletion, run_bind_eq_ok_iff, Unique.exists_iff, PUnit.default_eq_unit,
    run_table_eq_ok_iff, run_demandWhere_eq_ok_iff, run_whereClause_eq_ok_iff,
    run_pure_eq_ok_iff]
  constructor
  · rintro ⟨table, _, rfl, _, ⟨-, rfl⟩, conditions, _, ⟨conditionTokens, rfl,
      conditionsDerived, rfl⟩, rfl, rfl⟩
    exact ⟨table, conditions, conditionTokens, rfl, conditionsDerived, rfl, rfl⟩
  · rintro ⟨table, conditions, conditionTokens, rfl, conditionsDerived, rfl, rfl⟩
    exact ⟨table, _, rfl, _, ⟨by simp, rfl⟩, conditions, [],
      ⟨conditionTokens, rfl, conditionsDerived, rfl⟩, rfl, rfl⟩

/-! ## Insertions -/

theorem insertedFieldSeries_follows :
    insertedFieldSeries.Follows [.comma] Name where
  item := by
    intro tokens read rest _ _
    constructor
    · intro itemRead
      obtain ⟨token, rfl, meaning⟩ := run_expect_eq_ok_iff.mp itemRead
      exact ⟨[token], rfl, name_iff.mpr ⟨token, rfl, meaning⟩⟩
    · rintro ⟨front, rfl, derived⟩
      obtain ⟨token, rfl, meaning⟩ := name_iff.mp derived
      exact run_expect_eq_ok_iff.mpr ⟨token, rfl, meaning⟩
  another := run_afterInsertedField_another

theorem run_afterInsertedField_finished
    {tokens rest : List Token} :
    afterInsertedField.run tokens = .ok (.finished, rest) ↔
      tokens = .closeParen :: rest := by
  simp only [StateT.run]
  fun_cases afterInsertedField tokens <;> grind

/-- Rows end only with the tokens. -/
theorem run_afterRow_finished
    {tokens rest : List Token} :
    afterRow.run tokens = .ok (.finished, rest) ↔ tokens = [] ∧ rest = [] := by
  simp only [StateT.run]
  fun_cases afterRow tokens <;> grind

/-- The values of a row that has an end are read as they are derived. -/
theorem rowValues_eq_ok_iff
    {tokens rest : List Token}
    {values : List String} :
    rowValues tokens = .ok (values, some rest) ↔
      ∃ front, tokens = front ++ .closeParen :: rest ∧
        Separated [.comma] Value values front := by
  constructor
  · intro read
    induction tokens using rowValues.induct generalizing values with
    | case1 => simp [rowValues] at read
    | case2 => simp [rowValues] at read
    | case3 value tail =>
        obtain ⟨rfl, rfl⟩ : [value] = values ∧ tail = rest := by
          simpa [rowValues] using read
        exact ⟨[.literal value], rfl, .single .literal⟩
    | case4 value tail inner afterRow innerRead inductionHypothesis =>
        obtain ⟨rfl, rfl⟩ : value :: inner = values ∧ afterRow = some rest := by
          simpa [rowValues, innerRead] using read
        obtain ⟨front, rfl, separated⟩ := inductionHypothesis innerRead
        exact ⟨_, rfl, .cons .literal separated⟩
    | case5 value tail fault innerRead => simp [rowValues, innerRead] at read
    | case6 => simp_all [rowValues]
    | case7 => simp_all [rowValues]
  · rintro ⟨front, rfl, separated⟩
    induction separated with
    | single derived =>
        cases derived
        rfl
    | cons derived _ inductionHypothesis =>
        cases derived
        rw [List.singleton_append, List.cons_append, List.singleton_append,
          List.cons_append, rowValues, inductionHypothesis]

/-- A row is read as it is derived if there are fields to fill. -/
theorem row_eq_ok_iff
    {width : Nat}
    {tokens rest : List Token}
    {values : List String}
    (hasFields : width ≠ 0) :
    row width tokens = .ok (values, rest) ↔
      ∃ front, tokens = front ++ .closeParen :: rest ∧
        Separated [.comma] Value values front ∧ values.length = width := by
  rw [row_eq_ok_iff_rowBody]
  constructor
  · rintro ⟨body, equalCounts⟩
    revert body
    fun_cases rowBody tokens with
    | case1 tail =>
        rintro ⟨⟩
        exact absurd equalCounts.symm hasFields
    | case2 =>
        intro body
        obtain ⟨front, whole, separated⟩ := rowValues_eq_ok_iff.mp body
        exact ⟨front, whole, separated, equalCounts⟩
  · rintro ⟨front, rfl, separated, equalCounts⟩
    refine ⟨?_, equalCounts⟩
    have valuesRead : rowValues (front ++ .closeParen :: rest) =
        .ok (values, some rest) := rowValues_eq_ok_iff.mpr ⟨front, rfl, separated⟩
    -- A derived row begins with a literal, so it is not the empty one.
    cases separated with
    | single derived | cons derived =>
        cases derived
        exact valuesRead

/-- Rows are read as a list whose items begin after their opening parenthesis, which
belongs to what comes between two rows. There have to be fields, since a row without
values may be cut off. -/
theorem rowSeries_follows
    {width : Nat}
    (hasFields : width ≠ 0) :
    (rowSeries width).Follows [.comma, .openParen]
      fun values tokens => IsRow width values (.openParen :: tokens) where
  item := by
    intro tokens values rest _ _
    constructor
    · intro itemRead
      obtain ⟨front, rfl, separated, equalCounts⟩ :=
        (row_eq_ok_iff hasFields).mp itemRead
      refine ⟨front ++ [.closeParen], ?_, .row separated equalCounts⟩
      rw [List.append_assoc, List.singleton_append]
    · rintro ⟨_, rfl, ⟨separated, equalCounts⟩⟩
      rw [List.append_assoc, List.singleton_append]
      exact (row_eq_ok_iff hasFields).mpr ⟨_, rfl, separated, equalCounts⟩
  another := run_afterRow_another

/-- Rows begin with an opening parenthesis, and those of the rows after the first
one can be counted among the separators. -/
theorem rows_of_separated
    {width : Nat}
    {rows : List (List String)}
    {tokens : List Token}
    (separated : Separated [.comma] (IsRow width) rows tokens) :
    ∃ rest, tokens = .openParen :: rest ∧
      Separated [.comma, .openParen]
        (fun values tokens => IsRow width values (.openParen :: tokens)) rows rest := by
  induction separated with
  | single derived =>
      cases derived with
      | row values equalCounts => exact ⟨_, rfl, .single (.row values equalCounts)⟩
  | cons derived _ inductionHypothesis =>
      obtain ⟨rest, rfl, others⟩ := inductionHypothesis
      cases derived with
      | row values equalCounts =>
          exact ⟨_, rfl, .cons (.row values equalCounts) others⟩

/-- With the first opening parenthesis put back, the rows are separated by commas
alone. -/
theorem separated_of_rows
    {width : Nat}
    {rows : List (List String)}
    {tokens : List Token}
    (separated : Separated [.comma, .openParen]
      (fun values tokens => IsRow width values (.openParen :: tokens)) rows tokens) :
    Separated [.comma] (IsRow width) rows (.openParen :: tokens) := by
  induction separated with
  | single derived => exact .single derived
  | cons derived _ inductionHypothesis => exact .cons derived inductionHypothesis

/-- An asterisk is looked for up to the closing parenthesis, and no token is read. -/
theorem run_refuseWildcard_eq_ok_iff
    {tokens rest : List Token} :
    refuseWildcard.run tokens = .ok ((), rest) ↔
      wildcardBeforeClose tokens = false ∧ rest = tokens := by
  rw [run_refuseWildcard]
  cases wildcardBeforeClose tokens <;> simp [eq_comm]

/-- No wildcard stands among names. -/
theorem wildcardBeforeClose_of_names
    {fields : List String}
    {tokens : List Token}
    (derived : Separated [.comma] Name fields tokens)
    (rest : List Token) :
    wildcardBeforeClose (tokens ++ .closeParen :: rest) = false := by
  have plain : ∀ token ∈ tokens, token ≠ .asterisk ∧ token ≠ .closeParen := by
    refine derived.forall_mem (fun named token member => ?_) (by simp)
    cases named
    rw [List.mem_singleton.mp member]
    simp
  have before : (tokens ++ .closeParen :: rest).takeWhile
      (fun token => token ≠ .closeParen) = tokens := by
    rw [List.takeWhile_append_of_pos fun token member => by simp [plain token member],
      List.takeWhile_cons_of_neg (by simp), List.append_nil]
  rw [wildcardBeforeClose, before, decide_eq_false_iff_not]
  exact fun member => (plain _ member).1 rfl

/-- An insertion is read as it is derived. -/
theorem run_insertion_eq_ok_iff
    {tokens rest : List Token}
    {read : Statement} :
    insertion.run tokens = .ok (read, rest) ↔
      ∃ table fields rows fieldTokens rowTokens,
        tokens = .literal table :: .openParen ::
            (fieldTokens ++ .closeParen :: .keyword .VALUES :: rowTokens) ∧
          Separated [.comma] Name fields fieldTokens ∧
          Separated [.comma] (IsRow fields.length) rows rowTokens ∧
          read = { Statement.ofTable .insert table with
            fields := fields
            rows := rows } ∧
          rest = [] := by
  simp only [insertion, run_bind_eq_ok_iff, Unique.exists_iff, PUnit.default_eq_unit,
    run_table_eq_ok_iff, run_skip_eq_ok_iff, run_refuseWildcard_eq_ok_iff,
    run_pure_eq_ok_iff]
  constructor
  · rintro ⟨table, _, rfl, _, rfl, _, ⟨-, rfl⟩, fields, afterFields, fieldsRead, _, rfl,
      rowTokens, rfl, rows, _, rowsRead, rfl, rfl⟩
    obtain ⟨fieldTokens, last, rfl, fieldsDerived, finished⟩ :=
      insertedFieldSeries_follows.read_eq_ok_iff.mp fieldsRead
    rw [run_afterInsertedField_finished.mp finished]
    -- That there are fields rules out a row that is cut off.
    have hasFields : fields.length ≠ 0 :=
      mt List.length_eq_zero_iff.mp fieldsDerived.ne_nil
    obtain ⟨front, _, rfl, rowsDerived, rowsFinished⟩ :=
      (rowSeries_follows hasFields).read_eq_ok_iff.mp rowsRead
    obtain ⟨rfl, rfl⟩ := run_afterRow_finished.mp rowsFinished
    rw [List.append_nil]
    exact ⟨table, fields, rows, fieldTokens, _, rfl, fieldsDerived,
      separated_of_rows rowsDerived, rfl, rfl⟩
  · rintro ⟨table, fields, rows, fieldTokens, rowTokens, rfl, fieldsDerived,
      rowsDerived, rfl, rfl⟩
    have hasFields : fields.length ≠ 0 :=
      mt List.length_eq_zero_iff.mp fieldsDerived.ne_nil
    obtain ⟨rowRest, rfl, separated⟩ := rows_of_separated rowsDerived
    refine ⟨table, _, rfl, _, rfl, _,
      ⟨wildcardBeforeClose_of_names fieldsDerived _, rfl⟩, fields,
      .keyword .VALUES :: .openParen :: rowRest, ?_, _, rfl, rowRest, rfl, rows, [], ?_,
      rfl, rfl⟩
    · exact insertedFieldSeries_follows.read_eq_ok_iff.mpr
        ⟨fieldTokens, _, rfl, fieldsDerived, run_afterInsertedField_finished.mpr rfl⟩
    · exact (rowSeries_follows hasFields).read_eq_ok_iff.mpr
        ⟨rowRest, [], (List.append_nil rowRest).symm, separated,
          run_afterRow_finished.mpr ⟨rfl, rfl⟩⟩

end Clause

end SqlDialect
