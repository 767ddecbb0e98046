import SqlDialect.Statement.Canonical
import SqlDialect.Statement.Reading

/-!
# Reading back the canonical text

A statement is written faithfully if its canonical text spells that statement.
`Statement.reread` finds out whether it does.
-/

namespace SqlDialect

/-- What the canonical text of a statement spells. -/
inductive Rereading
  | same
  | different
  | refused (fault : SyntaxFault)
  deriving DecidableEq

/-- Read back the canonical text of a statement. -/
def Statement.reread (statement : Statement) : Rereading :=
  match Statement.ofText statement.sql with
  | .ok read => if read = statement then .same else .different
  | .error fault => .refused fault

end SqlDialect
