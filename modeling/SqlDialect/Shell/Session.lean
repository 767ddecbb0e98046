import SqlDialect.Failure
import SqlDialect.Shell.Command
import SqlDialect.Statement.Reading

/-!
# Sessions

A session responds to entries one after another, and remembers nothing but the
output format. An entry is a statement, which is shown in that format, or a
command, or empty. An entry that fails prints nothing and leaves the session as
it was: the result of `Session.respond` is then a failure and no session.
-/

namespace SqlDialect

/-- The state of a session. -/
structure Session where
  format : OutputFormat
  deriving DecidableEq

/-- The text that a session shows for help. -/
def helpText : String :=
  "\n".intercalate
    ["",
      "Enter a SQL statement to parse it and display its AST, or Ctrl-D to exit.",
      "Statements end at the end of the line, unless a quoted value is still open.",
      "The following commands are also available:",
      "",
      "    !format FORMAT     Sets the AST output format (debug, json or sql)",
      "    !help              This help message",
      "    !tokens STATEMENT  Displays the lexical tokens of a statement",
      ""]

/-- What an entry prints, each text with a line break after it, and the session
after it. -/
abbrev Response := Except Failure (List String × Session)

namespace Session

/-- Carry out a command. -/
def perform (session : Session) : Command → List String × Session
  | .help => ([helpText], session)
  | .setFormat name format => (["Format set to " ++ name], ⟨format⟩)
  | .tokens text =>
      ((tokensOf text).map fun token => token.description .line, session)

/-- Respond to an entry that is a command. -/
def respondToCommand (session : Session) (entry : String) : Response :=
  match Command.ofEntry entry.toList with
  | .ok command => .ok (session.perform command)
  | .error fault => .error (.input fault.message)

/-- Respond to an entry that is a statement. -/
def respondToStatement (session : Session) (entry : String) : Response :=
  match Statement.ofText entry with
  | .ok statement => .ok ([session.format.render statement], session)
  | .error fault => .error (.statement fault.message)

/-- Respond to an entry. -/
def respond (session : Session) (entry : String) : Response :=
  if isCommand entry.toList then
    session.respondToCommand entry
  else if entry = "" then
    .ok ([], session)
  else
    session.respondToStatement entry

/-- The line that reports a failure. -/
def report (failure : Failure) : String :=
  "Error: " ++ failure.message

/-- Respond to entries one after another, and report failures in between. -/
def respondToAll (session : Session) : List String → List String
  | [] => []
  | entry :: entries =>
      match session.respond entry with
      | .ok (printed, next) => printed ++ next.respondToAll entries
      | .error failure => report failure :: session.respondToAll entries

end Session

end SqlDialect
