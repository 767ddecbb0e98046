import Mathlib.Tactic.SplitIfs
import SqlDialect.Shell.Session

/-!
# Sessions effect by effect

`Session.respond` tells at once what an entry prints and which session comes after
it. Here an entry acts on a console step by step: a line is printed and the format is
changed as soon as that is reached, and a failure ends the entry without undoing what
was done before it.

The two agree (`ConsoleStep.run_entry`), because every failure of an entry is found
before the entry has any effect.
-/

namespace SqlDialect

/-- What the entries of a session act on: the output format, and all that has been
printed. -/
structure Console where
  format : OutputFormat
  printed : List String
  deriving DecidableEq

/-- A step that acts on a console and may fail. -/
abbrev ConsoleStep := ExceptT Failure (StateM Console)

namespace ConsoleStep

/-- Print a text with a line break after it. -/
def print (text : String) : ConsoleStep Unit :=
  modify fun console => { console with printed := console.printed ++ [text] }

/-- Change the output format. -/
def changeFormat (format : OutputFormat) : ConsoleStep Unit :=
  modify fun console => { console with format := format }

/-- Give up a command. -/
def refuse (fault : CommandFault) : ConsoleStep Unit :=
  throw (.input fault.message)

/-- Change the output format to the one with a name, and say so. -/
def changeFormatTo (name : String) : ConsoleStep Unit :=
  match OutputFormat.ofName? name with
  | none => refuse (.unknownFormat name)
  | some format => do
      changeFormat format
      print ("Format set to " ++ name)

/-- Carry out the command with a name and an argument. -/
def command (name argument : String) : ConsoleStep Unit :=
  if name = "!help" then
    if argument = "" then print helpText else refuse .argumentOfHelp
  else if name = "!format" then
    if argument = "" then refuse .noFormat else changeFormatTo argument
  else if name = "!tokens" then
    if argument = "" then
      refuse .noTokens
    else
      (tokensOf argument).forM fun token => print (token.description .line)
  else
    refuse (.unknownCommand name)

/-- Show the statement that a text spells. -/
def statement (text : String) : ConsoleStep Unit :=
  match Statement.ofText text with
  | .error fault => throw (.statement fault.message)
  | .ok statement => do
      let console ← get
      print (console.format.render statement)

/-- Carry out an entry. -/
def entry (text : String) : ConsoleStep Unit :=
  if isCommand text.toList then
    command (Command.split text.toList).1 (Command.split text.toList).2
  else if text = "" then
    pure ()
  else
    statement text

end ConsoleStep

namespace Console

/-- Carry out a step, whether it fails or not. -/
def run (console : Console) (step : ConsoleStep α) : Except Failure α × Console :=
  (ExceptT.run step).run console

/-- Carry out an entry, and report its failure. -/
def after (console : Console) (text : String) : Console :=
  match console.run (ConsoleStep.entry text) with
  | (.ok (), next) => next
  | (.error failure, next) =>
      { next with printed := next.printed ++ [Session.report failure] }

/-- Carry out entries one after another. -/
def afterAll (console : Console) (entries : List String) : Console :=
  entries.foldl after console

/-- The session that a console belongs to. -/
def session (console : Console) : Session :=
  ⟨console.format⟩

/-- What a response leaves a console with. -/
def responded (console : Console) : Response → Except Failure Unit × Console
  | .ok (printed, next) => (.ok (), ⟨next.format, console.printed ++ printed⟩)
  | .error failure => (.error failure, console)

end Console

namespace ConsoleStep

/-- A step goes on with the console that the one before it has left. -/
theorem run_bind_of_ok
    {first : ConsoleStep α}
    {second : α → ConsoleStep β}
    {console next : Console}
    {value : α}
    (firstRun : console.run first = (.ok value, next)) :
    console.run (first >>= second) = next.run (second value) := by
  unfold Console.run at *
  rw [ExceptT.run_bind, StateT.run_bind, firstRun]
  rfl

/-- Texts are printed one after another. -/
theorem run_forM_print
    (textOf : α → String)
    (items : List α)
    (console : Console) :
    console.run (items.forM fun item => print (textOf item)) =
      (.ok (), { console with printed := console.printed ++ items.map textOf }) := by
  induction items generalizing console with
  | nil =>
      rw [List.map_nil, List.append_nil]
      rfl
  | cons item items inductionHypothesis =>
      have first : console.run (print (textOf item)) =
          (.ok (), { console with printed := console.printed ++ [textOf item] }) := rfl
      have others := inductionHypothesis
        { console with printed := console.printed ++ [textOf item] }
      rw [List.append_assoc, List.singleton_append] at others
      refine (run_bind_of_ok first).trans ?_
      rw [others, List.map_cons]

/-- A command has the effects that the response to it tells, all or none. -/
theorem run_command
    (name argument : String)
    (console : Console) :
    console.run (command name argument) =
      console.responded (match Command.named name argument with
        | .ok command => .ok (console.session.perform command)
        | .error fault => .error (.input fault.message)) := by
  unfold command Command.named
  split_ifs
  · rfl
  · rfl
  · rfl
  · unfold changeFormatTo
    cases OutputFormat.ofName? argument <;> rfl
  · rfl
  · exact run_forM_print _ _ _
  · rfl

/-- An entry has the effects that the response to it tells, all or none. -/
theorem run_entry
    (text : String)
    (console : Console) :
    console.run (entry text) = console.responded (console.session.respond text) := by
  unfold entry Session.respond
  split_ifs
  · exact run_command _ _ console
  · change (Except.ok (), console) = _
    rw [Console.responded, List.append_nil]
    rfl
  · unfold statement Session.respondToStatement
    cases Statement.ofText text <;> rfl

end ConsoleStep

namespace Console

/-- An entry that fails leaves behind its report and nothing else. -/
theorem after_eq (console : Console) (text : String) :
    console.after text =
      match console.session.respond text with
      | .ok (printed, next) => ⟨next.format, console.printed ++ printed⟩
      | .error failure =>
          { console with printed := console.printed ++ [Session.report failure] } := by
  rw [after, ConsoleStep.run_entry]
  cases console.session.respond text <;> rfl

/-- What entries print one after another is what a session prints in response to
them. -/
theorem printed_afterAll (console : Console) (entries : List String) :
    (console.afterAll entries).printed =
      console.printed ++ console.session.respondToAll entries := by
  induction entries generalizing console with
  | nil => exact (List.append_nil _).symm
  | cons text entries inductionHypothesis =>
      rw [afterAll, List.foldl_cons]
      refine (inductionHypothesis _).trans ?_
      rw [after_eq, Session.respondToAll]
      cases console.session.respond text with
      | ok response => exact List.append_assoc _ _ _
      | error failure => exact List.append_assoc _ _ _

end Console

end SqlDialect
