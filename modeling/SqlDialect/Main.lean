import SqlDialect.Json.Reader
import SqlDialect.Shell.Invocation

/-!
# The command line

The shell is called with a statement to show, or without one to read its
standard input. The option `-f` asks for an output format, and `-c` names a
configuration in JSON, which may be absent. A variable of the environment with
the name of the shell and of a setting, in upper case, gives that setting.
-/

namespace SqlDialect

/-- What is asked for on the command line. -/
structure Arguments where
  format : Option OutputFormat
  configuration : Option String
  statement : Option String

namespace Arguments

/-- A command line that asks for nothing. -/
def empty : Arguments := ⟨none, none, none⟩

/-- Read the words of a command line. -/
def ofWords (arguments : Arguments) : List String → Except String Arguments
  | [] => .ok arguments
  | option :: argument :: words =>
      if option = "-f" || option = "--format" then
        match OutputFormat.all.find? fun format => format.name = argument with
        | some format => ofWords { arguments with format := some format } words
        | none => .error ("invalid value for " ++ option ++ ": " ++ argument)
      else if option = "-c" || option = "--config" then
        ofWords { arguments with configuration := some argument } words
      else if arguments.statement.isNone then
        ofWords { arguments with statement := some option } (argument :: words)
      else
        .error ("unexpected argument: " ++ option)
  | [option] =>
      if option ∈ ["-f", "--format", "-c", "--config"] then
        .error ("a value is required for " ++ option)
      else if arguments.statement.isNone then
        .ok { arguments with statement := some option }
      else
        .error ("unexpected argument: " ++ option)

end Arguments

/-- The variable of the environment that gives a setting. -/
def environmentVariable (setting : String) : String :=
  String.ofList ((shellName ++ "_" ++ setting).toList.map Char.toUpper)

/-- The members of a configuration, or the failure to read it. -/
def configurationOf (text : String) : Except Failure (List (String × JsonValue)) :=
  match JsonValue.ofText? text with
  | some (.object members) => .ok members
  | _ => .error (.input "the configuration is not a JSON object")

/-- Read everything that is left of a stream. -/
partial def readAll (stream : IO.FS.Stream) (before : String) : IO String := do
  let line ← stream.getLine
  if line.isEmpty then
    return before
  readAll stream (before ++ line)

/-- Read a file, if it is there. -/
def readConfiguration (path : Option String) : IO (Option String) := do
  match path with
  | some path =>
      try
        return some (← IO.FS.readFile path)
      catch _ =>
        return none
  | none => return none

/-- Run the shell with what the command line and the environment say. -/
def runShell (arguments : Arguments) : IO UInt32 := do
  let configuration :=
    match ← readConfiguration arguments.configuration with
    | some text => configurationOf text
    | none => .ok []
  match configuration with
  | .error failure =>
      IO.eprintln (Session.report failure)
  | .ok members =>
      let sources : SettingSources :=
        { requestedFormat := arguments.format
          environmentFormat := ← IO.getEnv (environmentVariable "format")
          environmentLevel := ← IO.getEnv (environmentVariable "log_level")
          configuration := members
          configurationFile := arguments.configuration.getD "" }
      let input ←
        if arguments.statement.isSome then pure ""
        else readAll (← IO.getStdin) ""
      let transcript :=
        Invocation.run ⟨sources, arguments.statement, input⟩
      IO.print (printedText transcript.output)
      IO.eprint (printedText transcript.errors)
  return 0

end SqlDialect

/-- Run the shell from the command line. -/
def main (words : List String) : IO UInt32 := do
  match SqlDialect.Arguments.empty.ofWords words with
  | .ok arguments => SqlDialect.runShell arguments
  | .error message =>
      IO.eprintln ("error: " ++ message)
      return 2
