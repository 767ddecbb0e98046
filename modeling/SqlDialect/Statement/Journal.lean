import SqlDialect.Statement.Reading

/-!
# What is logged while a statement is read

Reading a statement leaves records behind: the number of its tokens, and if it
is a statement, its kind and its table.
-/

namespace SqlDialect

/-- How closely a record of the log goes into details. -/
inductive LogLevel
  | error
  | warn
  | info
  | debug
  | trace
  deriving DecidableEq

namespace LogLevel

/-- All levels of detail, the least detailed first. -/
def all : List LogLevel := [error, warn, info, debug, trace]

/-- A level as it stands before a record. -/
def text : LogLevel → String
  | error => "ERROR"
  | warn => "WARN"
  | info => "INFO"
  | debug => "DEBUG"
  | trace => "TRACE"

end LogLevel

/-- A record of the log. -/
structure LogRecord where
  level : LogLevel
  message : String
  deriving DecidableEq

/-- A record with its level before it. -/
def LogRecord.text (record : LogRecord) : String :=
  record.level.text ++ " " ++ record.message

/-- The record of the number of tokens. -/
def countRecord (tokens : List Token) : LogRecord :=
  ⟨.trace, "parsing " ++ toString tokens.length ++ " tokens"⟩

/-- The record of a statement that was read. -/
def statementRecord (statement : Statement) : LogRecord :=
  ⟨.debug,
    "parsed " ++ statement.kind.text ++ " statement on table " ++
      quoted statement.table⟩

/-- The records that reading a text leaves. -/
def readingRecords (text : String) : List LogRecord :=
  match Statement.ofText text with
  | .ok statement => [countRecord (tokensOf text), statementRecord statement]
  | .error _ => [countRecord (tokensOf text)]

end SqlDialect
