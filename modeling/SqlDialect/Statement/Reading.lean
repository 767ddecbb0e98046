import SqlDialect.Clause.Insertion
import SqlDialect.Clause.Update
import SqlDialect.Token.Scan

/-!
# Reading statements

The first one or two reserved words tell the kind of a statement, and the clause
of that kind reads the rest. The whole text has to be one statement.

A batch is read in order, each text by itself, up to the first one that is no
statement. Its place in the batch is the number of statements before it.
-/

namespace SqlDialect

/-- The clause that reads a whole statement. -/
def Clause.statement : Clause Statement
  | .keyword .SELECT :: rest => Clause.selection rest
  | .keyword .UPDATE :: rest => Clause.update rest
  | .keyword .DELETE :: .keyword .FROM :: rest => Clause.deletion rest
  | .keyword .INSERT :: .keyword .INTO :: rest => Clause.insertion rest
  | _ => .error .unknownStatement

namespace Statement

/-- The statement that some tokens spell. -/
def ofTokens (tokens : List Token) : Except SyntaxFault Statement :=
  (Clause.statement.run tokens).map Prod.fst

/-- The statement that a text spells. -/
def ofText (text : String) : Except SyntaxFault Statement :=
  ofTokens (tokensOf text)

end Statement

/-- A batch that stopped at a text that is no statement. -/
structure BatchFault where
  before : List Statement
  fault : SyntaxFault
  deriving DecidableEq

/-- The place in the batch of the text that is no statement. -/
def BatchFault.index (fault : BatchFault) : Nat :=
  fault.before.length

/-- Read a batch of statements in order. -/
def readBatch : List String → Except BatchFault (List Statement)
  | [] => .ok []
  | text :: texts =>
      match Statement.ofText text with
      | .error fault => .error ⟨[], fault⟩
      | .ok statement =>
          match readBatch texts with
          | .error later => .error ⟨statement :: later.before, later.fault⟩
          | .ok statements => .ok (statement :: statements)

end SqlDialect
