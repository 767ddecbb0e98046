import SqlDialect.Clause.Selection

/-!
# Updates and deletions

An update names its table in quotes, and then after the word `SET` has
assignments with commas between neighbours, up to the word `WHERE` and the
conditions. A deletion has its table and conditions.

Both ask for the word `WHERE` as soon as the table has been read.
-/

namespace SqlDialect
namespace Clause

/-- An assignment of a quoted value to a field. -/
def assignment : Clause (String × String) := do
  let field ← expect Token.field? .missingAssignedField
  skip .equal .missingAssignmentSign
  let value ← expect Token.value? .missingAssignedValue
  return (field, value)

/-- An assignment is a field, an equals sign and a value. -/
theorem run_assignment_eq_ok_iff
    {tokens rest : List Token}
    {read : String × String} :
    assignment.run tokens = .ok (read, rest) ↔
      ∃ field value,
        tokens = field :: .equal :: value :: rest ∧
          field.field? = some read.1 ∧
          value.value? = some read.2 := by
  simp only [assignment, run_bind_eq_ok_iff, run_expect_eq_ok_iff,
    run_pure_eq_ok_iff]
  constructor
  · rintro ⟨field, _, ⟨fieldToken, rfl, fieldMeaning⟩, _, _, skipped, value, _,
      ⟨valueToken, rfl, valueMeaning⟩, rfl, rfl⟩
    rw [run_skip_eq_ok_iff.mp skipped]
    exact ⟨fieldToken, valueToken, rfl, fieldMeaning, valueMeaning⟩
  · rintro ⟨field, value, rfl, fieldMeaning, valueMeaning⟩
    exact ⟨_, _, ⟨_, rfl, fieldMeaning⟩, (), _, run_skip_eq_ok_iff.mpr rfl,
      _, _, ⟨_, rfl, valueMeaning⟩, rfl, rfl⟩

/-- After an assignment, either a comma or the word `WHERE` stands. -/
def afterAssignment : Clause Following
  | .comma :: rest => .ok (.another, rest)
  | .keyword .WHERE :: rest => .ok (.finished, rest)
  | _ => .error .missingAssignmentComma

theorem run_afterAssignment_another
    {tokens rest : List Token} :
    afterAssignment.run tokens = .ok (.another, rest) ↔
      tokens = .comma :: rest := by
  simp only [StateT.run]
  fun_cases afterAssignment tokens <;> grind

/-- An assignment and the comma after it take at least one token, so that a list of them
comes to an end. -/
theorem length_lt_of_assignment
    {tokens afterItem rest : List Token}
    {read : String × String}
    (itemRead : assignment.run tokens = .ok (read, afterItem))
    (followed : afterAssignment.run afterItem = .ok (.another, rest)) :
    rest.length < tokens.length := by
  obtain ⟨field, value, rfl, -⟩ := run_assignment_eq_ok_iff.mp itemRead
  rw [run_afterAssignment_another.mp followed]
  simp only [List.length_cons]
  omega

/-- The assignments of an update, up to the word `WHERE`. -/
def assignmentSeries : Series (String × String) where
  item := assignment
  following := afterAssignment
  advances := length_lt_of_assignment

/-- Assign values to fields, one after another. -/
def collectAssignments
    (assignments : List (String × String)) : List (String × String) :=
  assignments.foldl
    (fun collected assignment =>
      setAssignment assignment.1 assignment.2 collected) []

/-- An update, after the word `UPDATE`. -/
def update : Clause Statement := do
  let table ← table
  demandWhere
  skip (.keyword .SET) .missingSet
  let assignments ← assignmentSeries.clause
  let conditions ← conditions
  return { Statement.ofTable .update table with
    assignments := collectAssignments assignments
    conditions := conditions }

/-- A deletion, after the words `DELETE FROM`. -/
def deletion : Clause Statement := do
  let table ← table
  demandWhere
  let conditions ← whereClause
  return { Statement.ofTable .delete table with conditions := conditions }

end Clause
end SqlDialect
