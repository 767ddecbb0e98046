import SqlDialect.Description
import SqlDialect.Statement

/-!
# Descriptions of tokens and statements

The description of a statement shows all its parts in a fixed order, whether its
kind has a use for them or not. The description of a token shows its class, and
its text if the class leaves that open.
-/

namespace SqlDialect

namespace Token

/-- The description of a token. -/
def description : Token → Description
  | literal raw => .tuple "Literal" [.text raw]
  | ident word => .tuple "Ident" [.text word]
  | keyword reserved => .tuple "Keyword" [.word reserved.name]
  | comma => .word "Comma"
  | openParen => .word "OpenParen"
  | closeParen => .word "CloseParen"
  | equal => .word "Equal"
  | notEqual => .word "NotEqual"
  | lessThan => .word "LessThan"
  | lessThanOrEqual => .word "LessThanOrEqual"
  | greaterThan => .word "GreaterThan"
  | greaterThanOrEqual => .word "GreaterThanOrEqual"
  | asterisk => .word "Asterisk"

end Token

/-- The description of a condition. -/
def Condition.description (condition : Condition) : Description :=
  .record "Condition"
    [("operand1", .text condition.left.content),
      ("operand1_is_field", .truth condition.left.isField),
      ("operator", .word condition.comparison.name),
      ("operand2", .text condition.right.content),
      ("operand2_is_field", .truth condition.right.isField)]

/-- The description of a statement. -/
def Statement.description (statement : Statement) : Description :=
  .record "Ast"
    [("statement_type", .word statement.kind.name),
      ("table_name", .text statement.table),
      ("fields", .sequence (statement.fields.map .text)),
      ("aliases",
        .mapping (statement.labels.entries.map fun entry =>
          (entry.1, .text entry.2))),
      ("conditions",
        .sequence (statement.conditions.map Condition.description)),
      ("updates",
        .sequence (statement.assignments.map fun assignment =>
          .tuple "" [.text assignment.1, .text assignment.2])),
      ("inserts",
        .sequence (statement.rows.map fun row =>
          .sequence (row.map .text)))]

end SqlDialect
