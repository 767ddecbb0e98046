import SqlDialect.Proofs.Grammar.Statement

/-!
# Well-formed statements

A statement is well-formed if each of its names and values can be written as it
is held, and if it has the parts that belong to its kind and no others.

Every statement that is read from a text is well-formed
(`Statement.wellFormed_of_ofText`). The names and values of a text are what its
tokens spell, and the parts are those that the grammar derives.
-/

namespace SqlDialect

open Grammar

/-! ## What can be written -/

/-- Whether a name or a value of a condition can be written as it is held. -/
def Operand.IsWritable : Operand → Prop
  | field name => IsBareWord name.toList
  | value text => IsRawLiteral text.toList

/-- Whether both operands of a condition can be written. -/
def Condition.IsWritable (condition : Condition) : Prop :=
  condition.left.IsWritable ∧ condition.right.IsWritable

/-- Whether the name and the label of an item can be written. -/
def Clause.SelectedItem.IsWritable : Clause.SelectedItem → Prop
  | wildcard => True
  | field name label? =>
      IsBareWord name.toList ∧ ∀ label ∈ label?, IsBareWord label.toList

namespace Statement

/-- Whether a statement has the parts that belong to its kind and no others. -/
def HasOwnParts (statement : Statement) : Prop :=
  match statement.kind with
  | .select =>
      statement.fields ≠ [] ∧
        (∀ entry ∈ statement.labels.entries,
          entry.1 ∈ statement.fields ∧ entry.1 ≠ wildcardName) ∧
        statement.assignments = [] ∧
        statement.rows = []
  | .update =>
      statement.assignments ≠ [] ∧
        (statement.assignments.map Prod.fst).Nodup ∧
        statement.conditions ≠ [] ∧
        statement.fields = [] ∧
        statement.labels = .empty ∧
        statement.rows = []
  | .delete =>
      statement.conditions ≠ [] ∧
        statement.fields = [] ∧
        statement.labels = .empty ∧
        statement.assignments = [] ∧
        statement.rows = []
  | .insert =>
      statement.fields ≠ [] ∧
        statement.rows ≠ [] ∧
        (∀ row ∈ statement.rows, row.length = statement.fields.length) ∧
        statement.labels = .empty ∧
        statement.conditions = [] ∧
        statement.assignments = []

/-- A statement with names that are bare words, values that are raw literals, and
the parts of its kind. Only a selection can have the wildcard among its fields. -/
structure WellFormed (statement : Statement) : Prop where
  table : IsRawLiteral statement.table.toList
  fields : ∀ field ∈ statement.fields,
    IsBareWord field.toList ∨ statement.kind = .select ∧ field = wildcardName
  labels : ∀ entry ∈ statement.labels.entries, IsBareWord entry.2.toList
  conditions : ∀ condition ∈ statement.conditions, condition.IsWritable
  assignments : ∀ assignment ∈ statement.assignments,
    IsBareWord assignment.1.toList ∧ IsRawLiteral assignment.2.toList
  rows : ∀ row ∈ statement.rows, ∀ value ∈ row, IsRawLiteral value.toList
  ownParts : statement.HasOwnParts

end Statement

/-! ## Checking what can be written -/

instance (letters : List Char) : Decidable (IsRawLiteral letters) :=
  inferInstanceAs (Decidable (_ ∧ _))

/-- What a bare word is can be decided, since only finitely many words are reserved. -/
theorem isBareWord_iff
    {letters : List Char} :
    IsBareWord letters ↔
      letters ≠ [] ∧
        letters.all (fun letter => !isBlank letter && !isDelimiter letter) = true ∧
        ∀ keyword ∈ Keyword.all, letters.map Char.toUpper ≠ keyword.text.toList := by
  simp only [List.all_eq_true, Bool.and_eq_true, Bool.not_eq_true']
  constructor
  · intro bare
    exact ⟨bare.nonempty, bare.isWordPart, fun keyword _ => bare.notReserved keyword⟩
  · rintro ⟨nonempty, inWord, notReserved⟩
    exact IsWordPart.isBareWord inWord nonempty
      fun keyword => notReserved keyword keyword.mem_all

instance (letters : List Char) : Decidable (IsBareWord letters) :=
  decidable_of_iff _ isBareWord_iff.symm

instance : DecidablePred Operand.IsWritable
  | .field name => inferInstanceAs (Decidable (IsBareWord name.toList))
  | .value text => inferInstanceAs (Decidable (IsRawLiteral text.toList))

instance (condition : Condition) : Decidable condition.IsWritable :=
  inferInstanceAs (Decidable (_ ∧ _))

namespace Statement

instance : DecidablePred HasOwnParts
  | ⟨.select, _, _, _, _, _, _⟩ => inferInstanceAs (Decidable (_ ∧ _))
  | ⟨.update, _, _, _, _, _, _⟩ => inferInstanceAs (Decidable (_ ∧ _))
  | ⟨.delete, _, _, _, _, _, _⟩ => inferInstanceAs (Decidable (_ ∧ _))
  | ⟨.insert, _, _, _, _, _, _⟩ => inferInstanceAs (Decidable (_ ∧ _))

instance (statement : Statement) : Decidable statement.WellFormed :=
  decidable_of_iff
    (IsRawLiteral statement.table.toList ∧
      (∀ field ∈ statement.fields,
        IsBareWord field.toList ∨ statement.kind = .select ∧ field = wildcardName) ∧
      (∀ entry ∈ statement.labels.entries, IsBareWord entry.2.toList) ∧
      (∀ condition ∈ statement.conditions, condition.IsWritable) ∧
      (∀ assignment ∈ statement.assignments,
        IsBareWord assignment.1.toList ∧ IsRawLiteral assignment.2.toList) ∧
      (∀ row ∈ statement.rows, ∀ value ∈ row, IsRawLiteral value.toList) ∧
      statement.HasOwnParts)
    ⟨fun ⟨table, fields, labels, conditions, assignments, rows, ownParts⟩ =>
        ⟨table, fields, labels, conditions, assignments, rows, ownParts⟩,
      fun wellFormed => ⟨wellFormed.table, wellFormed.fields, wellFormed.labels,
        wellFormed.conditions, wellFormed.assignments, wellFormed.rows,
        wellFormed.ownParts⟩⟩

end Statement

/-- The name of the wildcard is no bare word, since an asterisk delimits words. -/
theorem IsBareWord.ne_wildcardName
    {name : String}
    (bare : IsBareWord name.toList) :
    name ≠ wildcardName := by
  rintro rfl
  exact not_isBareWord_wildcardName bare

namespace Clause.SelectedItem

/-- A label belongs to the name of its item, and both are bare words. -/
theorem IsWritable.of_labelling
    {item : SelectedItem}
    (writable : item.IsWritable)
    {entry : String × String}
    (labelling : item.labelling? = some entry) :
    item.name = entry.1 ∧ IsBareWord entry.1.toList ∧ IsBareWord entry.2.toList := by
  cases item with
  | wildcard => cases labelling
  | field name label? =>
      obtain ⟨label, isLabel, rfl⟩ := Option.map_eq_some_iff.mp labelling
      exact ⟨rfl, writable.1, writable.2 label isLabel⟩

/-- The names of items are bare words unless they are the wildcard's. -/
theorem isBareWord_of_mem_names
    {items : List SelectedItem}
    (writable : ∀ item ∈ items, item.IsWritable)
    {field : String}
    (member : field ∈ items.map name) :
    IsBareWord field.toList ∨ field = wildcardName := by
  obtain ⟨item, inItems, rfl⟩ := List.mem_map.mp member
  cases item with
  | wildcard => exact Or.inr rfl
  | field => exact Or.inl (writable _ inItems).1

end Clause.SelectedItem

/-! ## What is derived from spelled tokens -/

namespace Grammar

/-- A name that is read from a text is a bare word, and can be written again. -/
theorem Name.isBareWord
    {name : String}
    {tokens : List Token}
    (named : Name name tokens)
    (spelled : AllSpelled tokens) :
    IsBareWord name.toList := by
  cases named with
  | ident noQuote =>
      obtain ⟨letters, nameSpelled⟩ := (allSpelled_cons.mp spelled).1
      exact isBareWord_of_isSpelledBy nameSpelled noQuote

theorem Value.isRawLiteral
    {value : String}
    {tokens : List Token}
    (valued : Value value tokens)
    (spelled : AllSpelled tokens) :
    IsRawLiteral value.toList := by
  cases valued with
  | literal =>
      obtain ⟨letters, valueSpelled⟩ := (allSpelled_cons.mp spelled).1
      exact valueSpelled.2

theorem IsOperand.isWritable
    {operand : Operand}
    {tokens : List Token}
    (derived : IsOperand operand tokens)
    (spelled : AllSpelled tokens) :
    operand.IsWritable := by
  cases derived with
  | field named => exact named.isBareWord spelled
  | value valued => exact valued.isRawLiteral spelled

/-- A condition that is read from a text can be written again. -/
theorem IsCondition.isWritable
    {condition : Condition}
    {tokens : List Token}
    (derived : IsCondition condition tokens)
    (spelled : AllSpelled tokens) :
    condition.IsWritable := by
  cases derived with
  | compare left right =>
      obtain ⟨leftSpelled, -, rightSpelled⟩ := by
        simpa only [allSpelled_append, allSpelled_cons] using spelled
      exact ⟨left.isWritable leftSpelled, right.isWritable rightSpelled⟩

/-- What holds of every item that is derived from spelled tokens holds of each of
several items. -/
theorem Separated.forall_of_allSpelled
    {separator : List Token}
    {Derives : α → List Token → Prop}
    {Holds : α → Prop}
    {items : List α}
    {tokens : List Token}
    (separated : Separated separator Derives items tokens)
    (spelled : AllSpelled tokens)
    (ofItem : ∀ {item itemTokens}, Derives item itemTokens →
      AllSpelled itemTokens → Holds item) :
    ∀ item ∈ items, Holds item := by
  intro item member
  obtain ⟨itemTokens, derived, inTokens⟩ := separated.infix_of_mem member
  exact ofItem derived fun token inItem => spelled token (inTokens.subset inItem)

theorem IsOptionalWhere.isWritable
    {conditions : List Condition}
    {tokens : List Token}
    (derived : IsOptionalWhere conditions tokens)
    (spelled : AllSpelled tokens) :
    ∀ condition ∈ conditions, condition.IsWritable := by
  cases derived with
  | absent => simp
  | present derived =>
      exact derived.forall_of_allSpelled (allSpelled_cons.mp spelled).2
        fun compared => compared.isWritable

/-- An item that is read from a text can be written again, label included. -/
theorem IsItem.isWritable
    {item : Clause.SelectedItem}
    {tokens : List Token}
    (derived : IsItem item tokens)
    (spelled : AllSpelled tokens) :
    item.IsWritable := by
  cases derived with
  | wildcard => trivial
  | field named => exact ⟨named.isBareWord spelled, by simp⟩
  | labelled named labelNamed =>
      obtain ⟨nameSpelled, -, labelSpelled⟩ := by
        simpa only [allSpelled_append, allSpelled_cons] using spelled
      refine ⟨named.isBareWord nameSpelled, ?_⟩
      rintro label ⟨⟩
      exact labelNamed.isBareWord labelSpelled

theorem IsAssignment.isWritable
    {assignment : String × String}
    {tokens : List Token}
    (derived : IsAssignment assignment tokens)
    (spelled : AllSpelled tokens) :
    IsBareWord assignment.1.toList ∧ IsRawLiteral assignment.2.toList := by
  cases derived with
  | assign named valued =>
      obtain ⟨nameSpelled, -, valueSpelled⟩ := by
        simpa only [allSpelled_append, allSpelled_cons] using spelled
      exact ⟨named.isBareWord nameSpelled, valued.isRawLiteral valueSpelled⟩

theorem IsRow.isRawLiteral
    {width : Nat}
    {row : List String}
    {tokens : List Token}
    (derived : IsRow width row tokens)
    (spelled : AllSpelled tokens) :
    ∀ value ∈ row, IsRawLiteral value.toList := by
  cases derived with
  | row values =>
      have valuesSpelled :=
        (allSpelled_append.mp (allSpelled_cons.mp spelled).2).1
      exact values.forall_of_allSpelled valuesSpelled
        fun valued => valued.isRawLiteral

theorem IsRow.length_eq
    {width : Nat}
    {row : List String}
    {tokens : List Token}
    (derived : IsRow width row tokens) :
    row.length = width := by
  cases derived with
  | row _ equalCounts => exact equalCounts

/-! ## Statements -/

/-- Labels that are held belong to fields that are bare words, and so are they. -/
theorem IsLabelling.isBareWord
    {items : List Clause.SelectedItem}
    {labels : SortedMap String}
    (labelling : IsLabelling items labels)
    (writable : ∀ item ∈ items, item.IsWritable)
    {entry : String × String}
    (member : entry ∈ labels.entries) :
    entry.1 ∈ items.map Clause.SelectedItem.name ∧
      IsBareWord entry.1.toList ∧ IsBareWord entry.2.toList := by
  obtain ⟨item, inItems, isLabelling⟩ := labelling.exists_item member
  obtain ⟨sameName, bare⟩ := (writable item inItems).of_labelling isLabelling
  refine ⟨?_, bare⟩
  rw [← sameName]
  exact List.mem_map_of_mem inItems

/-- A statement is well-formed if it is derived from tokens that can be spelled. -/
theorem IsStatement.wellFormed
    {statement : Statement}
    {tokens : List Token}
    (derived : IsStatement statement tokens)
    (spelled : AllSpelled tokens) :
    statement.WellFormed := by
  -- In each kind the parts that are derived come from spelled tokens, and all other parts
  -- are empty.
  cases derived with
  | @select items _ _ _ _ _ _ itemsDerived tableDerived whereDerived labelling =>
      obtain ⟨-, itemsSpelled, -, tableSpelled, whereSpelled⟩ := by
        simpa only [allSpelled_append, allSpelled_cons] using spelled
      have writable : ∀ item ∈ items, item.IsWritable :=
        itemsDerived.forall_of_allSpelled itemsSpelled fun derived => derived.isWritable
      have someFields : items.map Clause.SelectedItem.name ≠ [] :=
        mt List.map_eq_nil_iff.mp itemsDerived.ne_nil
      exact {
        table := tableDerived.isRawLiteral tableSpelled
        fields := fun field member =>
          (Clause.SelectedItem.isBareWord_of_mem_names writable member).imp_right
            fun isWildcard => ⟨rfl, isWildcard⟩
        labels := fun entry member => (labelling.isBareWord writable member).2.2
        conditions := whereDerived.isWritable whereSpelled
        assignments := by simp
        rows := by simp
        ownParts := by
          refine ⟨someFields, fun entry member => ?_, rfl, rfl⟩
          obtain ⟨isField, bare, -⟩ := labelling.isBareWord writable member
          exact ⟨isField, bare.ne_wildcardName⟩
      }
  | update tableDerived assignmentsDerived conditionsDerived isCollected =>
      obtain ⟨-, tableSpelled, -, assignmentsSpelled, -, conditionsSpelled⟩ := by
        simpa only [allSpelled_append, allSpelled_cons] using spelled
      have writable := assignmentsDerived.forall_of_allSpelled assignmentsSpelled
        fun derived => derived.isWritable
      have someAssignments := isCollected.ne_nil assignmentsDerived.ne_nil
      exact {
        table := tableDerived.isRawLiteral tableSpelled
        fields := by simp
        labels := by simp [SortedMap.empty]
        conditions := conditionsDerived.forall_of_allSpelled conditionsSpelled
          fun derived => derived.isWritable
        assignments := fun assignment member =>
          writable assignment (isCollected.subset member)
        rows := by simp
        ownParts := ⟨someAssignments, isCollected.nodup, conditionsDerived.ne_nil,
          rfl, rfl, rfl⟩
      }
  | delete tableDerived conditionsDerived =>
      obtain ⟨-, -, tableSpelled, -, conditionsSpelled⟩ := by
        simpa only [allSpelled_append, allSpelled_cons] using spelled
      exact {
        table := tableDerived.isRawLiteral tableSpelled
        fields := by simp
        labels := by simp [SortedMap.empty]
        conditions := conditionsDerived.forall_of_allSpelled conditionsSpelled
          fun derived => derived.isWritable
        assignments := by simp
        rows := by simp
        ownParts := ⟨conditionsDerived.ne_nil, rfl, rfl, rfl, rfl⟩
      }
  | insert tableDerived fieldsDerived rowsDerived =>
      obtain ⟨-, -, tableSpelled, -, fieldsSpelled, -, -, rowsSpelled⟩ := by
        simpa only [allSpelled_append, allSpelled_cons] using spelled
      have names := fieldsDerived.forall_of_allSpelled fieldsSpelled
        fun named => named.isBareWord
      exact {
        table := tableDerived.isRawLiteral tableSpelled
        fields := fun field member => Or.inl (names field member)
        labels := by simp [SortedMap.empty]
        conditions := by simp
        assignments := by simp
        rows := rowsDerived.forall_of_allSpelled rowsSpelled
          fun derived => derived.isRawLiteral
        ownParts := ⟨fieldsDerived.ne_nil, rowsDerived.ne_nil,
          rowsDerived.forall_of_allSpelled rowsSpelled fun derived _ => derived.length_eq,
          rfl, rfl, rfl⟩
      }

end Grammar

/-- Every statement that is read from a text is well-formed. -/
theorem Statement.wellFormed_of_ofText
    {text : String}
    {statement : Statement}
    (read : ofText text = .ok statement) :
    statement.WellFormed :=
  (isStatement_of_ofTokens read).1.wellFormed (allSpelled_tokensOf text)

end SqlDialect
