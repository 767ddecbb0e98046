import SqlDialect.Statement.Canonical
import SqlDialect.Statement.Described
import SqlDialect.Statement.Encoded
import SqlDialect.Text.LetterCase

/-!
# Output formats

The formats in which a session shows a statement: its description in a block,
its indented JSON text, or its canonical text.
-/

namespace SqlDialect

/-- A format in which a statement is shown. -/
inductive OutputFormat
  | debug
  | json
  | sql
  deriving DecidableEq

namespace OutputFormat

/-- All formats. -/
def all : List OutputFormat := [debug, json, sql]

/-- The name of a format. -/
def name : OutputFormat → String
  | debug => "debug"
  | json => "json"
  | sql => "sql"

/-- The format with a name, in any case. -/
def ofName? (name : String) : Option OutputFormat :=
  all.find? fun format => sameWord name format.name

/-- A name in any case is the name of a format that it differs from in the case of
letters alone. -/
theorem ofName?_eq_some_iff_foldCase {name : String} {format : OutputFormat} :
    ofName? name = some format ↔ foldCase name = format.name.toList := by
  have small : foldCase format.name = format.name.toList := by
    cases format <;> decide
  rw [← small]
  constructor
  · intro found
    have same := List.find?_some found
    exact of_decide_eq_true same
  · intro same
    simp only [ofName?, sameWord, same]
    cases format <;> decide

/-- A statement in a format. -/
def render : OutputFormat → Statement → String
  | debug, statement => statement.description (.block 0)
  | json, statement => statement.toJson.indentedText
  | sql, statement => statement.sql

end OutputFormat

end SqlDialect
