import SqlDialect.Json.Text
import SqlDialect.Statement

/-!
# Statements as JSON values

A statement is an object with a member for each of its parts, in a fixed order.
Its labels are an object from fields to labels, in the order of the fields, and
each update is an array of a field and a value. An operand of a condition takes
two members: its content, and whether it is a field.
-/

namespace SqlDialect

/-- An array of strings. -/
def JsonValue.strings (texts : List String) : JsonValue :=
  .array (texts.map .string)

/-- A condition as a JSON value. -/
def Condition.toJson (condition : Condition) : JsonValue :=
  .object
    [("operand1", .string condition.left.content),
      ("operand1_is_field", .boolean condition.left.isField),
      ("operator", .string condition.comparison.name),
      ("operand2", .string condition.right.content),
      ("operand2_is_field", .boolean condition.right.isField)]

/-- An assignment as a JSON value. -/
def assignmentJson (assignment : String × String) : JsonValue :=
  .strings [assignment.1, assignment.2]

/-- Labels as a JSON value. -/
def labelsJson (labels : SortedMap String) : JsonValue :=
  .object (labels.entries.map fun entry => (entry.1, .string entry.2))

/-- A statement as a JSON value. -/
def Statement.toJson (statement : Statement) : JsonValue :=
  .object
    [("statement_type", .string statement.kind.name),
      ("table_name", .string statement.table),
      ("fields", .strings statement.fields),
      ("aliases", labelsJson statement.labels),
      ("conditions", .array (statement.conditions.map Condition.toJson)),
      ("updates", .array (statement.assignments.map assignmentJson)),
      ("inserts", .array (statement.rows.map .strings))]

end SqlDialect
