import SqlDialect.Shell.OutputFormat
import SqlDialect.Text.Blank

/-!
# Commands

An entry of a session that begins with an exclamation mark is a command. Its
name goes up to the first blank, and its argument is the rest, without the blanks
at both ends.
-/

namespace SqlDialect

/-- A command. -/
inductive Command
  | help
  | setFormat (name : String) (format : OutputFormat)
  | tokens (text : String)
  deriving DecidableEq

/-- Why an entry is no command. -/
inductive CommandFault
  | argumentOfHelp
  | noFormat
  | unknownFormat (name : String)
  | noTokens
  | unknownCommand (name : String)
  deriving DecidableEq

/-- The message of a fault in a command. -/
def CommandFault.message : CommandFault → String
  | argumentOfHelp => "!help takes no arguments"
  | noFormat => "!format takes 1 argument"
  | unknownFormat name => "unknown format " ++ name
  | noTokens => "!tokens takes a statement"
  | unknownCommand name => "unknown command " ++ name

/-- The character that a command begins with. -/
def commandMark : Char := '!'

/-- Whether an entry is a command. -/
def isCommand (entry : List Char) : Bool :=
  entry.head? = some commandMark

namespace Command

/-- The name of a command and its argument. -/
def split (entry : List Char) : String × String :=
  (String.ofList (entry.takeWhile fun character => !isBlank character),
    String.ofList
      (trimBlanks (entry.dropWhile fun character => !isBlank character)))

/-- The command with a name and an argument. -/
def named (name argument : String) : Except CommandFault Command :=
  if name = "!help" then
    if argument = "" then .ok .help else .error .argumentOfHelp
  else if name = "!format" then
    if argument = "" then
      .error .noFormat
    else
      match OutputFormat.ofName? argument with
      | some format => .ok (.setFormat argument format)
      | none => .error (.unknownFormat argument)
  else if name = "!tokens" then
    if argument = "" then .error .noTokens else .ok (.tokens argument)
  else
    .error (.unknownCommand name)

/-- The command that an entry is. -/
def ofEntry (entry : List Char) : Except CommandFault Command :=
  named (split entry).1 (split entry).2

end Command

end SqlDialect
