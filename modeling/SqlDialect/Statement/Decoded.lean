import SqlDialect.Json.Mismatch
import SqlDialect.Statement

/-!
# Statements from JSON values

A statement or a condition is read from an object with a member for each of its
parts, or from an array of the parts in their fixed order. Members with other
keys are ignored. That a member is missing counts only if every member that is
there can be read.
-/

namespace SqlDialect

/-- The form of a condition. -/
def conditionForm : JsonForm := .record "Condition" 5

/-- The form of a statement. -/
def statementForm : JsonForm := .record "Ast" 7

namespace JsonDecoder

/-- Read a comparison by its name. -/
def comparison : JsonDecoder Comparison :=
  constant Comparison.all Comparison.name

/-- Read the kind of a statement by its name. -/
def statementKind : JsonDecoder StatementKind :=
  constant StatementKind.all StatementKind.name

/-- Read a condition from the members of an object. -/
def conditionOfMembers
    (members : SortedMap JsonValue) : Except Mismatch Condition := do
  let left? ← member? string members "operand1"
  let leftIsField? ← member? truth members "operand1_is_field"
  let right? ← member? string members "operand2"
  let rightIsField? ← member? truth members "operand2_is_field"
  let comparison? ← member? comparison members "operator"
  let left ← demand "operand1" left?
  let leftIsField ← demand "operand1_is_field" leftIsField?
  let comparison ← demand "operator" comparison?
  let right ← demand "operand2" right?
  let rightIsField ← demand "operand2_is_field" rightIsField?
  return ⟨.ofContent left leftIsField, comparison, .ofContent right rightIsField⟩

/-- Read a condition from the items of an array. -/
def conditionOfItems
    (values : List JsonValue) : Except Mismatch Condition := do
  let left ← item string conditionForm values 0
  let leftIsField ← item truth conditionForm values 1
  let comparison ← item comparison conditionForm values 2
  let right ← item string conditionForm values 3
  let rightIsField ← item truth conditionForm values 4
  noItemAfter 5 values
  return ⟨.ofContent left leftIsField, comparison, .ofContent right rightIsField⟩

/-- Read a condition. -/
def condition : JsonDecoder Condition
  | .object members => conditionOfMembers (JsonValue.byKey members)
  | .array values => conditionOfItems values
  | value => wrong value conditionForm

/-- Read an assignment from the items of an array. -/
def assignmentOfItems
    (values : List JsonValue) : Except Mismatch (String × String) := do
  let field ← item string .pair values 0
  let value ← item string .pair values 1
  noItemAfter 2 values
  return (field, value)

/-- Read an assignment. -/
def assignment : JsonDecoder (String × String)
  | .array values => assignmentOfItems values
  | value => wrong value .pair

/-- Read a statement from the members of an object. -/
def statementOfMembers
    (members : SortedMap JsonValue) : Except Mismatch Statement := do
  let labels? ← member? (mapping string) members "aliases"
  let conditions? ← member? (sequence condition) members "conditions"
  let fields? ← member? (sequence string) members "fields"
  let rows? ← member? (sequence (sequence string)) members "inserts"
  let kind? ← member? statementKind members "statement_type"
  let table? ← member? string members "table_name"
  let assignments? ← member? (sequence assignment) members "updates"
  let kind ← demand "statement_type" kind?
  let table ← demand "table_name" table?
  let fields ← demand "fields" fields?
  let labels ← demand "aliases" labels?
  let conditions ← demand "conditions" conditions?
  let assignments ← demand "updates" assignments?
  let rows ← demand "inserts" rows?
  return ⟨kind, table, fields, labels, conditions, assignments, rows⟩

/-- Read a statement from the items of an array. -/
def statementOfItems
    (values : List JsonValue) : Except Mismatch Statement := do
  let kind ← item statementKind statementForm values 0
  let table ← item string statementForm values 1
  let fields ← item (sequence string) statementForm values 2
  let labels ← item (mapping string) statementForm values 3
  let conditions ← item (sequence condition) statementForm values 4
  let assignments ← item (sequence assignment) statementForm values 5
  let rows ← item (sequence (sequence string)) statementForm values 6
  noItemAfter 7 values
  return ⟨kind, table, fields, labels, conditions, assignments, rows⟩

/-- Read a statement. -/
def statement : JsonDecoder Statement
  | .object members => statementOfMembers (JsonValue.byKey members)
  | .array values => statementOfItems values
  | value => wrong value statementForm

end JsonDecoder

/-- The statement that a JSON value stands for. -/
def Statement.ofJson : JsonValue → Except Mismatch Statement :=
  JsonDecoder.statement

end SqlDialect
