import SqlDialect.Statement

/-!
# The canonical text of a statement

Every statement has one text, with reserved words in upper case, one blank
between words and after commas, and all values in quotes as they are held. The
parts that have no place in a statement of its kind are left out: an insertion
shows no conditions, and only a selection shows labels.

No check is made here, so the text of a statement whose names or values cannot
be written is not a text of that statement.
-/

namespace SqlDialect

/-- Texts with a comma and a blank between neighbours. -/
def commaSeparated (texts : List String) : String :=
  ", ".intercalate texts

/-- A selected field with its label, if it has one. -/
def selectedText (labels : SortedMap String) (field : String) : String :=
  match labels.find? field with
  | some label => field ++ " AS " ++ label
  | none => field

/-- An assignment as it is written in an update. -/
def assignmentText (assignment : String × String) : String :=
  assignment.1 ++ " = " ++ quoted assignment.2

/-- A row as it is written in an insertion. -/
def rowText (row : List String) : String :=
  "(" ++ commaSeparated (row.map quoted) ++ ")"

/-- The conditions that follow a statement, or nothing if there are none. -/
def whereText (conditions : List Condition) : String :=
  if conditions.isEmpty then
    ""
  else
    " WHERE " ++ " AND ".intercalate (conditions.map Condition.text)

namespace Statement

/-- The canonical text of a statement. -/
def sql (statement : Statement) : String :=
  match statement.kind with
  | .select =>
      "SELECT " ++
        commaSeparated (statement.fields.map (selectedText statement.labels)) ++
        " FROM " ++ quoted statement.table ++ whereText statement.conditions
  | .update =>
      "UPDATE " ++ quoted statement.table ++ " SET " ++
        commaSeparated (statement.assignments.map assignmentText) ++
        whereText statement.conditions
  | .delete =>
      "DELETE FROM " ++ quoted statement.table ++
        whereText statement.conditions
  | .insert =>
      "INSERT INTO " ++ quoted statement.table ++ " (" ++
        commaSeparated statement.fields ++ ") VALUES " ++
        commaSeparated (statement.rows.map rowText)

end Statement

end SqlDialect
