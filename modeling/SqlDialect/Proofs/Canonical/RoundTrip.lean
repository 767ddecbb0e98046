import SqlDialect.Proofs.Canonical.Fragments

/-!
# Reading back a canonical text

The canonical text of a well-formed statement spells that statement, whatever its
kind (`Statement.ofText_sql_of_wellFormed`). Since every statement that is read
from a text is well-formed, being so is also necessary.
-/

namespace SqlDialect

open Grammar

/-! ## Items of a selection -/

/-- The item that a field of a statement is written as. -/
def itemOf (labels : SortedMap String) (field : String) : Clause.SelectedItem :=
  if field = wildcardName then .wildcard else .field field (labels.find? field)

@[simp] theorem name_itemOf
    (labels : SortedMap String)
    (field : String) :
    (itemOf labels field).name = field := by
  by_cases isWildcard : field = wildcardName
  · rw [itemOf, if_pos isWildcard]
    exact isWildcard.symm
  · rw [itemOf, if_neg isWildcard]
    rfl

/-- An item is labelled if its field has a label, and the wildcard never is. -/
theorem labelling?_itemOf_eq_some_iff
    {labels : SortedMap String}
    {field : String}
    {entry : String × String} :
    (itemOf labels field).labelling? = some entry ↔
      field = entry.1 ∧ field ≠ wildcardName ∧ labels.find? field = some entry.2 := by
  by_cases isWildcard : field = wildcardName
  · simp [itemOf, Clause.SelectedItem.labelling?, isWildcard]
  · rw [itemOf, if_neg isWildcard, Clause.SelectedItem.labelling?,
      Option.map_eq_some_iff]
    constructor
    · rintro ⟨label, found, rfl⟩
      exact ⟨rfl, isWildcard, found⟩
    · rintro ⟨rfl, -, found⟩
      exact ⟨entry.2, found, rfl⟩

/-- Labels of fields are the ones that the fields are written with. -/
theorem isLabelling_itemOf
    {fields : List String}
    {labels : SortedMap String}
    (labelled : ∀ entry ∈ labels.entries,
      entry.1 ∈ fields ∧ entry.1 ≠ wildcardName) :
    IsLabelling (fields.map (itemOf labels)) labels := by
  intro name
  -- A field that is selected twice is written with the same label both times, so that
  -- it makes no difference that the last one counts.
  have held {value : String}
      (found : lastValue? name ((fields.map (itemOf labels)).filterMap
        Clause.SelectedItem.labelling?) = some value) :
      labels.find? name = some value := by
    obtain ⟨item, inItems, labelling⟩ := List.mem_filterMap.mp (mem_of_lastValue? found)
    obtain ⟨field, -, rfl⟩ := List.mem_map.mp inItems
    obtain ⟨rfl, -, isHeld⟩ := labelling?_itemOf_eq_some_iff.mp labelling
    exact isHeld
  cases found : labels.find? name with
  | none =>
      symm
      rw [Option.eq_none_iff_forall_ne_some]
      intro value written
      rw [held written] at found
      cases found
  | some label =>
      obtain ⟨isField, notWildcard⟩ :=
        labelled (name, label) (SortedMap.find?_eq_some_iff.mp found)
      have written : (name, label) ∈ (fields.map (itemOf labels)).filterMap
          Clause.SelectedItem.labelling? :=
        List.mem_filterMap.mpr ⟨itemOf labels name, List.mem_map_of_mem isField,
          labelling?_itemOf_eq_some_iff.mpr ⟨rfl, notWildcard, found⟩⟩
      obtain ⟨value, isLast⟩ := exists_lastValue?_of_mem written
      rw [isLast, ← held isLast, found]

/-- A field is written with its label, if it has one, and read back as the item that it
was. -/
theorem writes_item
    {labels : SortedMap String}
    {field : String}
    (fieldWritable : IsBareWord field.toList ∨ field = wildcardName)
    (labelsWritable : ∀ entry ∈ labels.entries,
      IsBareWord entry.2.toList ∧ entry.1 ≠ wildcardName) :
    Writes IsItem (itemOf labels field) (selectedText labels field) := by
  have labelOf {label : String} (found : labels.find? field = some label) :
      IsBareWord label.toList ∧ field ≠ wildcardName :=
    labelsWritable (field, label) (SortedMap.find?_eq_some_iff.mp found)
  unfold selectedText itemOf
  rcases fieldWritable with bare | rfl
  · obtain ⟨tokens, reads, named⟩ := writes_name bare
    rw [if_neg bare.ne_wildcardName]
    cases found : labels.find? field with
    | some label =>
        obtain ⟨labelTokens, labelReads, labelNamed⟩ := writes_name (labelOf found).1
        have labelOpens := reads.append_separates (separates_keyword .AS)
        refine ⟨_, ?_, .labelled named labelNamed⟩
        simpa [Keyword.text] using labelOpens.append_readsAs labelReads
    | none => exact ⟨tokens, reads, .field named⟩
  · rw [if_pos rfl]
    cases found : labels.find? wildcardName with
    | some label => exact absurd rfl (labelOf found).2
    | none =>
        have opens := opens_symbol .asterisk rfl fun _ => trivial
        exact ⟨[.asterisk], opens.readsAs, .wildcard⟩

/-! ## Assignments and rows -/

/-- An assignment is written with an equals sign and read back as it is. -/
theorem writes_assignment
    {assignment : String × String}
    (writable : IsBareWord assignment.1.toList ∧ IsRawLiteral assignment.2.toList) :
    Writes IsAssignment assignment (assignmentText assignment) := by
  obtain ⟨fieldTokens, fieldReads, named⟩ := writes_name writable.1
  obtain ⟨valueTokens, valueReads, valued⟩ := writes_value writable.2
  refine ⟨_, ?_, .assign named valued⟩
  have valueOpens := fieldReads.append_separates separates_equal
  simpa [assignmentText] using valueOpens.append_readsAs valueReads

/-- A row is written in parentheses and read back as it is, if it has as many values as
there are fields. -/
theorem writes_row
    {width : Nat}
    {row : List String}
    (hasFields : width ≠ 0)
    (equalCounts : row.length = width)
    (writable : ∀ value ∈ row, IsRawLiteral value.toList) :
    Writes (IsRow width) row (rowText row) := by
  have someValues : row ≠ [] := by
    rintro rfl
    exact hasFields equalCounts.symm
  obtain ⟨tokens, reads, derived⟩ := writes_intercalate separates_comma someValues
    fun value member => writes_value (writable value member)
  refine ⟨_, ?_, .row derived equalCounts⟩
  have opened := opens_openParen.append_readsAs reads
  simpa [rowText, commaSeparated] using
    (opened.append_separates separates_closeParen).readsAs

/-! ## Statements -/

/-- Conditions after a fragment, if there are any. -/
theorem readsAs_append_whereText
    {fragment : String}
    {tokens : List Token}
    {conditions : List Condition}
    (reads : ReadsAs fragment tokens)
    (writable : ∀ condition ∈ conditions, condition.IsWritable) :
    ∃ whereTokens,
      ReadsAs (fragment ++ whereText conditions) (tokens ++ whereTokens) ∧
        IsOptionalWhere conditions whereTokens := by
  by_cases isEmpty : conditions.isEmpty = true
  · rw [whereText, if_pos isEmpty, List.isEmpty_iff.mp isEmpty]
    refine ⟨[], ?_, .absent⟩
    simpa using reads
  · obtain ⟨conditionTokens, conditionsRead, derived⟩ :=
      writes_intercalate (separates_keyword .AND) (mt List.isEmpty_iff.mpr isEmpty)
        fun condition member => writes_condition (writable condition member)
    rw [whereText, if_neg isEmpty]
    refine ⟨_, ?_, .present derived⟩
    have opens := reads.append_separates (separates_keyword .WHERE)
    rw [← String.append_assoc]
    simpa [Keyword.text] using opens.append_readsAs conditionsRead

namespace Statement

/-- A well-formed selection is written as tokens that derive it. -/
theorem writes_selection
    {statement : Statement}
    (wellFormed : statement.WellFormed)
    (isSelection : statement.kind = .select) :
    Writes IsStatement statement statement.sql := by
  obtain ⟨kind, table, fields, labels, conditions, assignments, rows⟩ := statement
  obtain rfl : kind = .select := isSelection
  obtain ⟨someFields, labelled, rfl, rfl⟩ := wellFormed.ownParts
  have labelsWritable : ∀ entry ∈ labels.entries,
      IsBareWord entry.2.toList ∧ entry.1 ≠ wildcardName :=
    fun entry member => ⟨wellFormed.labels entry member, (labelled entry member).2⟩
  obtain ⟨itemTokens, itemsRead, itemsDerived⟩ :=
    writes_intercalate separates_comma someFields fun field member =>
      writes_item ((wellFormed.fields field member).imp_right And.right) labelsWritable
  obtain ⟨tableTokens, tableReads, tableDerived⟩ := writes_value wellFormed.table
  have itemsOpen := ((opens_keyword .SELECT).append_readsAs itemsRead).append_separates
    (separates_keyword .FROM)
  obtain ⟨whereTokens, reads, whereDerived⟩ := readsAs_append_whereText
    (itemsOpen.append_readsAs tableReads) wellFormed.conditions
  have derived := IsStatement.select itemsDerived.map tableDerived
    whereDerived (isLabelling_itemOf labelled)
  have names : (fields.map (itemOf labels)).map Clause.SelectedItem.name = fields := by
    rw [List.map_map]
    exact List.map_id'' (name_itemOf labels) fields
  rw [names] at derived
  refine ⟨_, ?_, derived⟩
  simpa [sql, commaSeparated, Keyword.text] using reads

/-- A well-formed update is written as tokens that derive it, with its conditions, since
it has some. -/
theorem writes_update
    {statement : Statement}
    (wellFormed : statement.WellFormed)
    (isUpdate : statement.kind = .update) :
    Writes IsStatement statement statement.sql := by
  obtain ⟨kind, table, fields, labels, conditions, assignments, rows⟩ := statement
  obtain rfl : kind = .update := isUpdate
  obtain ⟨someAssignments, nodup, someConditions, rfl, rfl, rfl⟩ := wellFormed.ownParts
  obtain ⟨assignmentTokens, assignmentsRead, assignmentsDerived⟩ :=
    writes_intercalate separates_comma someAssignments fun assignment member =>
      writes_assignment (wellFormed.assignments assignment member)
  obtain ⟨tableTokens, tableReads, tableDerived⟩ := writes_value wellFormed.table
  have tableOpens := ((opens_keyword .UPDATE).append_readsAs tableReads).append_separates
    (separates_keyword .SET)
  obtain ⟨_, reads, whereDerived⟩ := readsAs_append_whereText
    (tableOpens.append_readsAs assignmentsRead) wellFormed.conditions
  obtain ⟨conditionTokens, rfl, conditionsDerived⟩ := whereDerived.of_ne_nil someConditions
  refine ⟨_, ?_, .update tableDerived assignmentsDerived conditionsDerived
    (isCollected_self nodup)⟩
  simpa [sql, commaSeparated, Keyword.text] using reads

theorem writes_deletion
    {statement : Statement}
    (wellFormed : statement.WellFormed)
    (isDeletion : statement.kind = .delete) :
    Writes IsStatement statement statement.sql := by
  obtain ⟨kind, table, fields, labels, conditions, assignments, rows⟩ := statement
  obtain rfl : kind = .delete := isDeletion
  obtain ⟨someConditions, rfl, rfl, rfl, rfl⟩ := wellFormed.ownParts
  obtain ⟨tableTokens, tableReads, tableDerived⟩ := writes_value wellFormed.table
  have opens := (opens_keyword .DELETE).append (opens_keyword .FROM)
  obtain ⟨_, reads, whereDerived⟩ := readsAs_append_whereText
    (opens.append_readsAs tableReads) wellFormed.conditions
  obtain ⟨conditionTokens, rfl, conditionsDerived⟩ := whereDerived.of_ne_nil someConditions
  refine ⟨_, ?_, .delete tableDerived conditionsDerived⟩
  simpa [sql, Keyword.text] using reads

/-- A well-formed insertion is written as tokens that derive it, rows and all. -/
theorem writes_insertion
    {statement : Statement}
    (wellFormed : statement.WellFormed)
    (isInsertion : statement.kind = .insert) :
    Writes IsStatement statement statement.sql := by
  obtain ⟨kind, table, fields, labels, conditions, assignments, rows⟩ := statement
  obtain rfl : kind = .insert := isInsertion
  obtain ⟨someFields, someRows, equalCounts, rfl, rfl, rfl⟩ := wellFormed.ownParts
  have bare : ∀ field ∈ fields, IsBareWord field.toList := by
    intro field member
    rcases wellFormed.fields field member with bare | ⟨isSelection, -⟩
    · exact bare
    · cases isSelection
  obtain ⟨fieldTokens, fieldsRead, fieldsDerived⟩ :=
    writes_intercalate separates_comma someFields fun field member =>
      writes_name (bare field member)
  obtain ⟨rowTokens, rowsRead, rowsDerived⟩ :=
    writes_intercalate separates_comma someRows fun row member =>
      writes_row (mt List.length_eq_zero_iff.mp someFields) (equalCounts row member)
        (wellFormed.rows row member)
  obtain ⟨tableTokens, tableReads, tableDerived⟩ := writes_value wellFormed.table
  have opens := (opens_keyword .INSERT).append (opens_keyword .INTO)
  have tableOpens := (opens.append_readsAs tableReads).append_separates
    (separates_blank.append opens_openParen)
  have fieldsOpen := (tableOpens.append_readsAs fieldsRead).append_separates
    (separates_closeParen.append (separates_keyword .VALUES).opens)
  have reads := fieldsOpen.append_readsAs rowsRead
  refine ⟨_, ?_, .insert tableDerived fieldsDerived rowsDerived⟩
  simpa [sql, commaSeparated, Keyword.text] using reads

/-- The canonical text of a well-formed statement is derived for it. -/
theorem writes_of_wellFormed
    {statement : Statement}
    (wellFormed : statement.WellFormed) :
    Writes IsStatement statement statement.sql := by
  cases isKind : statement.kind with
  | select => exact writes_selection wellFormed isKind
  | update => exact writes_update wellFormed isKind
  | delete => exact writes_deletion wellFormed isKind
  | insert => exact writes_insertion wellFormed isKind

/-- A text is read as what is derived from the tokens that it is read as. -/
theorem ofText_of_readsAs
    {text : String}
    {tokens : List Token}
    {statement : Statement}
    (reads : ReadsAs text tokens)
    (derived : IsStatement statement tokens) :
    ofText text = .ok statement := by
  have isRead : tokensOf text = tokens := by
    have wholeText := reads [] endsToken_nil
    have noMore : Token.scanAll [] = [] := Token.scanAll_of_scan?_eq_none rfl
    rwa [List.append_nil, noMore, List.append_nil] at wholeText
  have absent := not_labelsWildcardName_tokensOf text
  rw [ofText]
  rw [isRead] at absent ⊢
  exact ofTokens_of_isStatement derived absent

/-- The canonical text of a well-formed statement is read as that statement. -/
theorem ofText_sql_of_wellFormed
    {statement : Statement}
    (wellFormed : statement.WellFormed) :
    ofText statement.sql = .ok statement := by
  obtain ⟨tokens, reads, derived⟩ := writes_of_wellFormed wellFormed
  exact ofText_of_readsAs reads derived

/-- A statement that was read from any text is read from its canonical text
again. -/
theorem ofText_sql_of_ofText
    {text : String}
    {statement : Statement}
    (read : ofText text = .ok statement) :
    ofText statement.sql = .ok statement :=
  ofText_sql_of_wellFormed (wellFormed_of_ofText read)

/-- A selection that was written with two labels for one field. Its canonical text
has the second one at both places. -/
def doublyLabelled : Statement :=
  { ofTable .select "it\\'s" with
    fields := ["a!", "*", "a!"]
    labels := .ofList [("a!", "y")]
    conditions := [⟨.field "a!", .notEqual, .value "AND\n\\'"⟩] }

theorem ofText_sql_doublyLabelled :
    ofText "select a! as x, *, a! AS y from 'it\\'s' where a!!='AND\n\\''" =
        .ok doublyLabelled ∧
      ofText doublyLabelled.sql = .ok doublyLabelled := by
  have read :
      ofText "select a! as x, *, a! AS y from 'it\\'s' where a!!='AND\n\\''" =
        .ok doublyLabelled := by
    decide +kernel
  exact ⟨read, ofText_sql_of_ofText read⟩

/-- The canonical text of a statement is read as that statement exactly if it is
well-formed. -/
theorem ofText_sql_eq_ok_iff_wellFormed (statement : Statement) :
    ofText statement.sql = .ok statement ↔ statement.WellFormed := by
  constructor
  · intro read
    exact wellFormed_of_ofText read
  · intro wellFormed
    exact ofText_sql_of_wellFormed wellFormed

/-- A value that would end its own literal is not read back. -/
example :
    ¬WellFormed
      { ofTable .delete "t" with
        conditions := [⟨.field "a", .equal, .value "' OR a = 'x"⟩] } := by
  decide

end Statement

end SqlDialect
