/-!
# Why a text is no statement

The reasons for which a sequence of tokens is refused, one constructor for each,
and the message of each. A message names the clause that was being read; the two
messages without a clause say that there is no statement at all, or no table.
-/

namespace SqlDialect

/-- The reason for which some tokens are no statement. -/
inductive SyntaxFault
  | unknownStatement
  | missingTable
  | missingSelectedField
  | missingLabel (selected : String)
  | missingFrom
  | absentWhere
  | missingWhere
  | emptyWhere
  | missingLeftOperand
  | missingComparison
  | missingRightOperand
  | missingAnd
  | missingSet
  | missingAssignedField
  | missingAssignmentSign
  | missingAssignedValue
  | missingAssignmentComma
  | missingRows
  | wildcardInserted
  | missingRowStart
  | missingRowComma
  | missingRowValue
  | missingValueComma
  | unequalCounts
  deriving DecidableEq

namespace SyntaxFault

/-- The message of a fault. -/
def message : SyntaxFault → String
  | unknownStatement => "query type cannot be empty"
  | missingTable => "table name cannot be empty"
  | missingSelectedField => "at SELECT: expected field to SELECT"
  | missingLabel selected =>
      "at SELECT: expected field alias for \"" ++ selected ++ " as\" to SELECT"
  | missingFrom => "at SELECT: expected comma or FROM"
  | absentWhere => "at WHERE: WHERE clause is mandatory for UPDATE & DELETE"
  | missingWhere => "at WHERE: expected WHERE"
  | emptyWhere => "at WHERE: empty WHERE clause"
  | missingLeftOperand => "at WHERE: condition with empty left side operand"
  | missingComparison => "at WHERE: condition without operator"
  | missingRightOperand => "at WHERE: condition with empty right side operand"
  | missingAnd => "at WHERE: expected AND"
  | missingSet => "at UPDATE: expected 'SET'"
  | missingAssignedField => "at UPDATE: expected at least one field to update"
  | missingAssignmentSign => "at UPDATE: expected '='"
  | missingAssignedValue => "at UPDATE: expected quoted value"
  | missingAssignmentComma => "at UPDATE: expected ','"
  | missingRows => "at INSERT INTO: need at least one row to insert"
  | wildcardInserted => "at INSERT INTO: expected at least one field to insert"
  | missingRowStart => "at INSERT INTO: expected opening parens"
  | missingRowComma => "at INSERT INTO: expected comma"
  | missingRowValue => "at INSERT INTO: expected quoted value"
  | missingValueComma => "at INSERT INTO: expected comma or closing parens"
  | unequalCounts => "at INSERT INTO: value count doesn't match field count"

end SyntaxFault

end SqlDialect
