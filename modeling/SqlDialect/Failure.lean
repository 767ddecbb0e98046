import SqlDialect.Description
import SqlDialect.Json.Text

/-!
# Failures

What can go wrong for a user of the dialect: a text is no statement, some other
input is invalid, or reading or writing fails. The message about a statement
stands for itself, and the others say first what kind of failure they are.
-/

namespace SqlDialect

/-- What went wrong for a user. -/
inductive Failure
  | statement (text : String)
  | input (text : String)
  | transfer (text : String)
  deriving DecidableEq

namespace Failure

/-- The name of the kind of a failure. -/
def name : Failure → String
  | statement _ => "Parse"
  | input _ => "InvalidInput"
  | transfer _ => "IO"

/-- What is said about a failure, apart from its kind. -/
def text : Failure → String
  | statement text => text
  | input text => text
  | transfer text => text

/-- The failure with the named kind. -/
def named? (kind text : String) : Option Failure :=
  [statement text, input text, transfer text].find? fun failure =>
    failure.name = kind

/-- The message of a failure. -/
def message : Failure → String
  | statement text => text
  | input text => "invalid input: " ++ text
  | transfer text => "io error: " ++ text

/-- A failure as a JSON value. -/
def toJson (failure : Failure) : JsonValue :=
  .object [(failure.name, .string failure.text)]

/-- The description of a failure. -/
def description (failure : Failure) : Description :=
  .tuple failure.name [.text failure.text]

end Failure

end SqlDialect
