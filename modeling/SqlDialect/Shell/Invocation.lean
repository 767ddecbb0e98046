import SqlDialect.Shell.Entries
import SqlDialect.Shell.Session
import SqlDialect.Shell.Settings

/-!
# Running the shell

The shell is called with settings from several sources, and either with one
statement or with an input that is read entry by entry. It answers with what it
writes to its output and to its error output. Bad settings keep everything else
from happening.
-/

namespace SqlDialect

/-- The name under which the shell presents itself. -/
def shellName : String := "trippySQL"

/-- What the shell says first when it reads an input. -/
def greeting : String :=
  shellName ++ " shell. Enter !help for instructions."

/-- A call of the shell. -/
structure Invocation where
  sources : SettingSources
  statement : Option String
  input : String

/-- What the shell writes, line by line. -/
structure Transcript where
  output : List String
  errors : List String
  deriving DecidableEq

/-- Texts with a line break after each. -/
def printedText (texts : List String) : String :=
  String.join (texts.map (· ++ "\n"))

namespace Invocation

/-- Run the shell in a session, with some way to find the entries of an input. -/
def runReading
    (entries : String → List String)
    (invocation : Invocation)
    (session : Session) : Transcript :=
  match invocation.statement with
  | some entry =>
      match session.respond entry with
      | .ok (printed, _) => ⟨printed, []⟩
      | .error failure => ⟨[], [Session.report failure]⟩
  | none => ⟨greeting :: session.respondToAll (entries invocation.input), []⟩

/-- Run the shell in a session. -/
def runIn : Invocation → Session → Transcript :=
  runReading entriesOf

/-- Run the shell. -/
def run (invocation : Invocation) : Transcript :=
  match invocation.sources.settings with
  | .ok settings => invocation.runIn ⟨settings.format⟩
  | .error fault => ⟨[], [Session.report (.input fault.message)]⟩

end Invocation

end SqlDialect
