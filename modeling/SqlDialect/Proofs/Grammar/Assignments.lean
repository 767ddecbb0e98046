import SqlDialect.Proofs.Grammar.Statement

/-!
# Assignments in the order of their fields

The assignments of a statement are a map from fields to values in the order in which
the fields were first assigned. One assignment replaces the value at the first place
of its field, or else takes a new place at the end; what it replaces is also what is
looked up, so a list with a field at several places is no exception.

The assignments of an update that was read are those of its text, made one after
another in their order (`Statement.assignAll_orderedMap`).
-/

namespace SqlDialect

/-! ## One assignment -/

section

variable {field : String} {assignments : List (String × String)}

/-- An assignment to a new field takes a new place at the end. -/
theorem setAssignment_of_not_mem
    (isNew : field ∉ assignments.map Prod.fst)
    (value : String) :
    setAssignment field value assignments = assignments ++ [(field, value)] := by
  induction assignments with
  | nil => rfl
  | cons first rest inductionHypothesis =>
      rw [List.map_cons, List.mem_cons, not_or] at isNew
      rw [setAssignment, if_neg (Ne.symm isNew.1), inductionHypothesis isNew.2,
        List.cons_append]

/-- An assignment to a field that is there replaces the value at its first place. -/
theorem exists_setAssignment_of_mem
    (isAssigned : field ∈ assignments.map Prod.fst)
    (value : String) :
    ∃ before old after,
      field ∉ before.map Prod.fst ∧
        assignments = before ++ (field, old) :: after ∧
        setAssignment field value assignments = before ++ (field, value) :: after := by
  induction assignments with
  | nil => simp at isAssigned
  | cons first rest inductionHypothesis =>
      by_cases sameField : first.1 = field
      · refine ⟨[], first.2, rest, by simp, ?_, ?_⟩
        · rw [← sameField, List.nil_append]
        · rw [setAssignment, if_pos sameField, List.nil_append]
      · have inRest : field ∈ rest.map Prod.fst := by
          simpa [Ne.symm sameField] using isAssigned
        obtain ⟨before, old, after, isFirst, whole, replaced⟩ :=
          inductionHypothesis inRest
        refine ⟨first :: before, old, after, ?_, ?_, ?_⟩
        · rw [List.map_cons, List.mem_cons, not_or]
          exact ⟨Ne.symm sameField, isFirst⟩
        · rw [whole, List.cons_append]
        · rw [setAssignment, if_neg sameField, replaced, List.cons_append]

end

/-- No assignment is found where none is to that field. -/
theorem find?_eq_none_of_not_mem
    {field : String}
    {assignments : List (String × String)}
    (absent : field ∉ assignments.map Prod.fst) :
    assignments.find? (fun assignment => assignment.1 = field) = none := by
  rw [List.find?_eq_none]
  intro assignment member same
  rw [← of_decide_eq_true same] at absent
  exact absent (List.mem_map_of_mem member)

namespace Statement

variable {statement : Statement} {field : String}

/-- The value that was just assigned is found, and that of another field is as it
was. -/
theorem assigned?_assign (statement : Statement) (field value other : String) :
    (statement.assign field value).assigned? other =
      if field = other then some value else statement.assigned? other := by
  by_cases isAssigned : field ∈ statement.assignments.map Prod.fst
  · obtain ⟨before, old, after, isFirst, whole, replaced⟩ :=
      exists_setAssignment_of_mem isAssigned value
    rw [assigned?, assigned?, assign, replaced, whole, List.find?_append,
      List.find?_append]
    by_cases same : field = other
    · rw [if_pos same, ← same, find?_eq_none_of_not_mem isFirst]
      simp
    · simp [same]
  · rw [assigned?, assigned?, assign, setAssignment_of_not_mem isAssigned,
      List.find?_append]
    by_cases same : field = other
    · rw [if_pos same, ← same, find?_eq_none_of_not_mem isAssigned]
      simp
    · simp [same]

/-! ## Assignments one after another -/

/-- Assign values to fields of a statement, one after another. -/
def assignAll
    (statement : Statement)
    (written : List (String × String)) : Statement :=
  written.foldl
    (fun current assignment => current.assign assignment.1 assignment.2) statement

@[simp] theorem assignAll_nil (statement : Statement) :
    statement.assignAll [] = statement := rfl

/-- The last assignment is made after all others. -/
theorem assignAll_concat
    (statement : Statement)
    (written : List (String × String))
    (assignment : String × String) :
    statement.assignAll (written ++ [assignment]) =
      (statement.assignAll written).assign assignment.1 assignment.2 :=
  List.foldl_concat _ _ _ _

/-- The assignments that are made one after another are collected as those of an
update are. -/
theorem assignments_assignAll
    (noneYet : statement.assignments = [])
    (written : List (String × String)) :
    (statement.assignAll written).assignments = Clause.collectAssignments written := by
  induction written using List.reverseRecOn with
  | nil => exact noneYet
  | append_singleton written assignment inductionHypothesis =>
      rw [assignAll_concat, assign, inductionHypothesis, Clause.collectAssignments,
        Clause.collectAssignments, List.foldl_concat]

/-- After assignments one after another the value of a field is the last one. -/
theorem assigned?_assignAll
    (noneYet : statement.assignments = [])
    (written : List (String × String))
    (field : String) :
    (statement.assignAll written).assigned? field =
      Grammar.lastValue? field written := by
  induction written using List.reverseRecOn with
  | nil => rw [assignAll_nil, assigned?, noneYet]; rfl
  | append_singleton written assignment inductionHypothesis =>
      rw [assignAll_concat, assigned?_assign, inductionHypothesis,
        Grammar.lastValue?_concat]

/-- The assignments of an update are those that were written, made one after another
in their order. -/
theorem exists_assignAll_of_ofTokens
    {tokens : List Token}
    (read : ofTokens tokens = .ok statement)
    (isUpdate : statement.kind = .update) :
    ∃ written assignmentTokens conditionTokens,
      tokens = .keyword .UPDATE :: .literal statement.table :: .keyword .SET ::
          (assignmentTokens ++ .keyword .WHERE :: conditionTokens) ∧
        Grammar.Separated [.comma] Grammar.IsAssignment written assignmentTokens ∧
        statement.assignments =
          ((ofTable .update statement.table).assignAll written).assignments := by
  cases (isStatement_of_ofTokens read).1 with
  | update tableDerived assignmentsDerived conditionsDerived isCollected =>
      cases tableDerived
      refine ⟨_, _, _, rfl, assignmentsDerived, ?_⟩
      rw [assignments_assignAll rfl]
      exact Grammar.isCollected_iff.mp isCollected
  | _ => cases isUpdate

/-- The assignments of a statement are a map from fields to values in the order in
which the fields were first assigned. So it is after any assignments to a statement
that had none. One assignment to any statement counts for its own field and no other,
at the first place of that field or else at the end, and changes nothing else. An
update that is read holds the map of its assignments in the order of the text. -/
theorem assignAll_orderedMap :
    (∀ statement : Statement, statement.assignments = [] → ∀ written,
      ((statement.assignAll written).assignments.map Prod.fst).Nodup ∧
        Grammar.IsCollected written (statement.assignAll written).assignments ∧
        ∀ field, (statement.assignAll written).assigned? field =
          Grammar.lastValue? field written) ∧
    (∀ (statement : Statement) (field value : String),
      (statement.assign field value).assigned? field = some value ∧
        (∀ other, other ≠ field →
          (statement.assign field value).assigned? other =
            statement.assigned? other) ∧
        (field ∈ statement.assignments.map Prod.fst →
          (statement.assign field value).assignments.map Prod.fst =
              statement.assignments.map Prod.fst ∧
            ∃ before old after,
              field ∉ before.map Prod.fst ∧
                statement.assignments = before ++ (field, old) :: after ∧
                (statement.assign field value).assignments =
                  before ++ (field, value) :: after) ∧
        (field ∉ statement.assignments.map Prod.fst →
          (statement.assign field value).assignments =
            statement.assignments ++ [(field, value)]) ∧
        statement.assign field value =
          { statement with
            assignments := (statement.assign field value).assignments }) ∧
    ∀ tokens (statement : Statement),
      ofTokens tokens = .ok statement → statement.kind = .update →
        ∃ written assignmentTokens conditionTokens,
          tokens = .keyword .UPDATE :: .literal statement.table :: .keyword .SET ::
              (assignmentTokens ++ .keyword .WHERE :: conditionTokens) ∧
            Grammar.Separated [.comma] Grammar.IsAssignment written assignmentTokens ∧
            statement.assignments =
              ((ofTable .update statement.table).assignAll written).assignments := by
  refine ⟨fun statement noneYet written => ?_, fun statement field value => ?_,
    fun tokens statement => exists_assignAll_of_ofTokens⟩
  · have isCollected : Grammar.IsCollected written
        (statement.assignAll written).assignments :=
      Grammar.isCollected_iff.mpr (assignments_assignAll noneYet written)
    exact ⟨isCollected.nodup, isCollected, assigned?_assignAll noneYet written⟩
  · refine ⟨?_, fun other different => ?_, fun isAssigned => ⟨?_, ?_⟩,
      fun isNew => setAssignment_of_not_mem isNew value, rfl⟩
    · rw [assigned?_assign, if_pos rfl]
    · rw [assigned?_assign, if_neg (Ne.symm different)]
    · rw [assign, map_fst_setAssignment, if_pos isAssigned]
    · exact exists_setAssignment_of_mem isAssigned value

/-- An update that assigns twice to a field, and one more assignment to that field
where it has two places. -/
theorem assignAll_orderedMap_twoPlaces :
    (ofTable .update "t").assignments = [] ∧
      ((ofTable .update "t").assignAll [("a", "1"), ("b", "2"), ("a", "3")]).assigned?
          "a" =
        Grammar.lastValue? "a" [("a", "1"), ("b", "2"), ("a", "3")] ∧
    (∃ twoPlaces : Statement,
      twoPlaces.assignments = [("b", "2"), ("a", "1"), ("a", "3")] ∧
        (twoPlaces.assign "a" "4").assigned? "b" = twoPlaces.assigned? "b" ∧
        (twoPlaces.assign "a" "4").assignments.map Prod.fst =
          twoPlaces.assignments.map Prod.fst ∧
        (twoPlaces.assign "c" "4").assignments =
          twoPlaces.assignments ++ [("c", "4")]) ∧
    ∃ statement : Statement,
      ofText "UPDATE 't' SET a = '1', b = '2', a = '3' WHERE c = d" = .ok statement ∧
        statement.kind = .update ∧
        ∃ written assignmentTokens conditionTokens,
          tokensOf "UPDATE 't' SET a = '1', b = '2', a = '3' WHERE c = d" =
              .keyword .UPDATE :: .literal statement.table :: .keyword .SET ::
                (assignmentTokens ++ .keyword .WHERE :: conditionTokens) ∧
            Grammar.Separated [.comma] Grammar.IsAssignment written assignmentTokens ∧
            statement.assignments =
              ((ofTable .update statement.table).assignAll written).assignments := by
  obtain ⟨fromNone, one, ofUpdate⟩ := assignAll_orderedMap
  have read : ofText "UPDATE 't' SET a = '1', b = '2', a = '3' WHERE c = d" =
      .ok { ofTable .update "t" with
        assignments := [("a", "3"), ("b", "2")]
        conditions := [⟨.field "c", .equal, .field "d"⟩] } := by decide +kernel
  have assigned := (one { ofTable .update "t" with
    assignments := [("b", "2"), ("a", "1"), ("a", "3")] } "a" "4").2
  have appended := (one { ofTable .update "t" with
    assignments := [("b", "2"), ("a", "1"), ("a", "3")] } "c" "4").2.2.2.1
  exact ⟨rfl, (fromNone _ rfl _).2.2 "a",
    ⟨_, rfl, assigned.1 "b" (by decide), (assigned.2.1 (by decide)).1,
      appended (by decide)⟩,
    _, read, rfl, ofUpdate _ _ read rfl⟩

end Statement

end SqlDialect
