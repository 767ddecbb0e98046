import Mathlib.Data.List.Induction
import SqlDialect.Proofs.Session.Effects
import SqlDialect.Proofs.Session.Formats

/-!
# Failures in a session

An entry that fails is reported, and apart from its report the session goes on as if
it had not been entered. Which format a statement is shown in depends only on the
commands before it that have changed the format (`Console.format_afterAll`).
-/

namespace SqlDialect

/-- The format that an entry changes to, if it is a command that names one. -/
def formatSetBy? (entry : String) : Option OutputFormat :=
  if (Command.split entry.toList).1 = "!format" then
    OutputFormat.ofName? (Command.split entry.toList).2
  else
    none

/-- The format after some entries: the one that was set last, or else the initial
one. -/
def formatAfter
    (initial : OutputFormat)
    (entries : List String) : OutputFormat :=
  (entries.reverse.findSome? formatSetBy?).getD initial

/-- The last entry that sets a format sets the one that holds. -/
theorem formatAfter_concat
    (initial : OutputFormat)
    (entries : List String)
    (entry : String) :
    formatAfter initial (entries ++ [entry]) =
      (formatSetBy? entry).getD (formatAfter initial entries) := by
  rw [formatAfter, List.reverse_concat, List.findSome?_cons]
  cases formatSetBy? entry <;> rfl

/-! ## Which entries set a format -/

/-- An entry that changes the format is a command. -/
theorem isCommand_of_named_format
    {entry : List Char}
    (isFormat : (Command.split entry).1 = "!format") :
    isCommand entry = true := by
  obtain ⟨rest, whole⟩ :=
    List.takeWhile_prefix (fun character => !isBlank character) (l := entry)
  have word : entry.takeWhile (fun character => !isBlank character) =
      "!format".toList := by
    rw [← isFormat, Command.split, String.toList_ofList]
  rw [← whole, word]
  rfl

/-- What is no command sets no format. -/
theorem formatSetBy?_of_noCommand
    {entry : String}
    (noCommand : isCommand entry.toList = false) :
    formatSetBy? entry = none := by
  rw [formatSetBy?, if_neg]
  intro isFormat
  exact Bool.eq_false_iff.mp noCommand (isCommand_of_named_format isFormat)

/-- An entry sets a format exactly if it is the command for it with the name of the
format, in letters of any case. -/
theorem formatSetBy?_eq_some_iff_named {entry : String} {format : OutputFormat} :
    formatSetBy? entry = some format ↔
      (Command.split entry.toList).1 = "!format" ∧
        inSmallLetters (Command.split entry.toList).2 = format.name := by
  rw [← OutputFormat.ofName?_eq_some_iff, formatSetBy?]
  split_ifs with isFormat <;> simp [isFormat]

namespace ConsoleStep

theorem command_format (argument : String) :
    command "!format" argument =
      if argument = "" then refuse .noFormat else changeFormatTo argument := by
  rw [command, if_neg (by decide), if_pos rfl]

/-- The format changes only to one that has the given name. -/
theorem format_run_changeFormatTo (console : Console) (name : String) :
    (console.run (changeFormatTo name)).2.format =
      (OutputFormat.ofName? name).getD console.format := by
  unfold changeFormatTo
  cases OutputFormat.ofName? name <;> rfl

/-- A command leaves the format that it names, or else the one that there was. -/
theorem format_run_command
    (console : Console)
    (name argument : String) :
    (console.run (command name argument)).2.format =
      (if name = "!format" then OutputFormat.ofName? argument else none).getD
        console.format := by
  by_cases isFormat : name = "!format"
  · rw [isFormat, command_format, if_pos rfl]
    by_cases isEmpty : argument = ""
    · rw [if_pos isEmpty, isEmpty]
      rfl
    · rw [if_neg isEmpty]
      exact format_run_changeFormatTo console argument
  · rw [command, if_neg isFormat, if_neg isFormat]
    split_ifs
    · rfl
    · rfl
    · rfl
    · rw [run_forM_print]
      rfl
    · rfl

/-- An entry leaves the format that it sets, or else the one that there was. -/
theorem format_run_entry (console : Console) (text : String) :
    (console.run (entry text)).2.format =
      (formatSetBy? text).getD console.format := by
  unfold entry
  split_ifs with isACommand
  · exact format_run_command _ _ _
  · rw [formatSetBy?_of_noCommand (Bool.eq_false_iff.mpr isACommand)]
    rfl
  · rw [formatSetBy?_of_noCommand (Bool.eq_false_iff.mpr isACommand)]
    unfold statement
    cases Statement.ofText text <;> rfl

/-- The change to a format succeeds exactly if it has the given name. -/
theorem run_changeFormatTo_eq_ok_iff
    {console : Console}
    {name : String}
    {chosen : OutputFormat} :
    (∃ next,
      console.run (changeFormatTo name) = (.ok (), next) ∧ next.format = chosen) ↔
      OutputFormat.ofName? name = some chosen := by
  unfold changeFormatTo
  cases OutputFormat.ofName? name with
  | none =>
      constructor
      · rintro ⟨next, ran, -⟩
        cases ran
      · intro isSome
        cases isSome
  | some format =>
      constructor
      · rintro ⟨next, ran, rfl⟩
        cases ran
        rfl
      · intro isSome
        cases isSome
        exact ⟨_, rfl, rfl⟩

/-- A command for the format succeeds exactly if it names one, and leaves that. -/
theorem formatSetBy?_eq_some_iff
    (console : Console)
    (text : String)
    (chosen : OutputFormat) :
    formatSetBy? text = some chosen ↔
      (Command.split text.toList).1 = "!format" ∧
        ∃ next,
          console.run (entry text) = (.ok (), next) ∧ next.format = chosen := by
  by_cases isFormat : (Command.split text.toList).1 = "!format"
  · rw [formatSetBy?, if_pos isFormat, entry, if_pos (isCommand_of_named_format isFormat),
      and_iff_right isFormat, isFormat, command_format]
    split_ifs with isEmpty
    · rw [isEmpty]
      constructor
      · intro isSome
        cases isSome
      · rintro ⟨next, ran, -⟩
        cases ran
    · exact run_changeFormatTo_eq_ok_iff.symm
  · rw [formatSetBy?, if_neg isFormat]
    constructor
    · intro isSome
      cases isSome
    · intro holds
      exact absurd holds.1 isFormat

end ConsoleStep

namespace Console

/-- An entry leaves the format as it is unless it sets one. -/
theorem format_after (console : Console) (text : String) :
    (console.after text).format = (formatSetBy? text).getD console.format := by
  rw [← ConsoleStep.format_run_entry, after]
  cases console.run (ConsoleStep.entry text) with
  | mk outcome next => cases outcome <;> rfl

/-- The format after some entries is the one that was set last. -/
theorem format_afterAll (console : Console) (entries : List String) :
    (console.afterAll entries).format = formatAfter console.format entries := by
  induction entries using List.reverseRecOn with
  | nil => rfl
  | append_singleton entries text inductionHypothesis =>
      rw [afterAll, List.foldl_append, formatAfter_concat, ← inductionHypothesis]
      exact format_after _ text

/-- All that a session keeps of its entries is the format that the last of them to do so
has set. -/
theorem session_afterAll (console : Console) (entries : List String) :
    (console.afterAll entries).session = ⟨formatAfter console.format entries⟩ := by
  rw [session, format_afterAll]

theorem afterAll_append
    (console : Console)
    (before later : List String) :
    console.afterAll (before ++ later) = (console.afterAll before).afterAll later :=
  List.foldl_append

end Console

namespace Session

/-- What a session prints in response to entries goes on after some of them with what
the console that these leave shows for the others. -/
theorem respondToAll_append
    (format : OutputFormat)
    (before later : List String) :
    respondToAll ⟨format⟩ (before ++ later) =
      respondToAll ⟨format⟩ before ++
        respondToAll ⟨formatAfter format before⟩ later := by
  have whole := Console.printed_afterAll ⟨format, []⟩ (before ++ later)
  rw [Console.afterAll_append, Console.printed_afterAll, Console.printed_afterAll,
    Console.session_afterAll] at whole
  exact whole.symm

/-- What a failing entry of a session is answered with. -/
theorem respondToAll_cons_of_error
    {session : Session}
    {entry : String}
    {failure : Failure}
    (fails : session.respond entry = .error failure)
    (later : List String) :
    session.respondToAll (entry :: later) =
      report failure :: session.respondToAll later := by
  rw [respondToAll, fails]

/-- What a statement is answered with. -/
theorem respondToAll_cons_of_statement
    {entry : String}
    {statement : Statement}
    (noCommand : isCommand entry.toList = false)
    (reads : Statement.ofText entry = .ok statement)
    (session : Session)
    (later : List String) :
    session.respondToAll (entry :: later) =
      session.format.render statement :: session.respondToAll later := by
  have notEmpty : entry ≠ "" := by
    rintro rfl
    have unread : Statement.ofText "" = .error .unknownStatement := by decide +kernel
    cases unread.symm.trans reads
  rw [respondToAll, respond, noCommand, if_neg Bool.false_ne_true, if_neg notEmpty,
    respondToStatement, reads]
  rfl

/-- A failure of an entry on a console is one in response to it. -/
theorem respond_eq_error_of_run
    {console : Console}
    {entry : String}
    {failure : Failure}
    (fails : (console.run (ConsoleStep.entry entry)).1 = .error failure) :
    console.session.respond entry = .error failure := by
  rw [ConsoleStep.run_entry] at fails
  cases response : console.session.respond entry with
  | ok printed =>
      rw [response] at fails
      cases fails
  | error found =>
      rw [response] at fails
      cases fails
      rfl

/-- A session prints what the effects of its entries are, one after another. An entry
that fails adds its report to that, and without it everything else would be printed
the same. A statement is shown in the format that the last successful command for it
before has named, or else in the initial one: in a block, as indented JSON text, or as
canonical text. -/
theorem respondToAll_without_failing (format : OutputFormat) :
    (∀ entries,
      (Console.afterAll ⟨format, []⟩ entries).printed = respondToAll ⟨format⟩ entries) ∧
    (∀ (console : Console) entry chosen,
      formatSetBy? entry = some chosen ↔
        (Command.split entry.toList).1 = "!format" ∧
          ∃ next,
            console.run (ConsoleStep.entry entry) = (.ok (), next) ∧
              next.format = chosen) ∧
    (∀ entry,
      (formatSetBy? entry = some .debug ↔
        (Command.split entry.toList).1 = "!format" ∧
          inSmallLetters (Command.split entry.toList).2 = "debug") ∧
      (formatSetBy? entry = some .json ↔
        (Command.split entry.toList).1 = "!format" ∧
          inSmallLetters (Command.split entry.toList).2 = "json") ∧
      (formatSetBy? entry = some .sql ↔
        (Command.split entry.toList).1 = "!format" ∧
          inSmallLetters (Command.split entry.toList).2 = "sql")) ∧
    (∀ statement,
      OutputFormat.debug.render statement = statement.description (.block 0) ∧
      OutputFormat.json.render statement = statement.toJson.indentedText ∧
      OutputFormat.sql.render statement = statement.sql) ∧
    ∀ before entry later,
      (∀ failure,
        ((Console.afterAll ⟨format, []⟩ before).run (ConsoleStep.entry entry)).1 =
            .error failure →
          ∃ rest,
            respondToAll ⟨format⟩ (before ++ entry :: later) =
                respondToAll ⟨format⟩ before ++ ("Error: " ++ failure.message) :: rest ∧
              respondToAll ⟨format⟩ (before ++ later) =
                respondToAll ⟨format⟩ before ++ rest) ∧
      ∀ statement, isCommand entry.toList = false →
        Statement.ofText entry = .ok statement →
          ∃ rest,
            respondToAll ⟨format⟩ (before ++ entry :: later) =
              respondToAll ⟨format⟩ before ++
                (formatAfter format before).render statement :: rest := by
  refine ⟨fun entries => ?_, ConsoleStep.formatSetBy?_eq_some_iff, fun entry => ?_,
    fun statement => ⟨rfl, rfl, rfl⟩, fun before entry later => ⟨fun failure fails => ?_,
      fun statement noCommand reads => ?_⟩⟩
  · exact Console.printed_afterAll ⟨format, []⟩ entries
  · exact ⟨formatSetBy?_eq_some_iff_named, formatSetBy?_eq_some_iff_named,
      formatSetBy?_eq_some_iff_named⟩
  · have response := respond_eq_error_of_run fails
    rw [Console.session_afterAll] at response
    refine ⟨respondToAll ⟨formatAfter format before⟩ later, ?_, ?_⟩
    · rw [respondToAll_append, respondToAll_cons_of_error response, report]
    · exact respondToAll_append format before later
  · refine ⟨respondToAll ⟨formatAfter format before⟩ later, ?_⟩
    rw [respondToAll_append, respondToAll_cons_of_statement noCommand reads]

/-- A command for an unknown format leaves the one that was named before it. The same
statement is shown in the initial format first and then in two others. -/
theorem respondToAll_without_unknownFormat :
    (∃ rest,
      respondToAll ⟨.sql⟩ ["!format JSON", "!format xml", "delete from 't' where a<b"] =
          ["Format set to JSON"] ++
            "Error: invalid input: unknown format xml" :: rest ∧
        respondToAll ⟨.sql⟩ ["!format JSON", "delete from 't' where a<b"] =
          ["Format set to JSON"] ++ rest) ∧
    (∃ rest,
      respondToAll ⟨.sql⟩ ["delete from 't' where a<b", "!format JSON"] =
        "DELETE FROM 't' WHERE a < b" :: rest) ∧
    (∃ rest,
      respondToAll ⟨.sql⟩ ["!format JSON", "!format xml", "delete from 't' where a<b"] =
        ["Format set to JSON", "Error: invalid input: unknown format xml"] ++
          "\n".intercalate
            ["\x7b",
              "  \"statement_type\": \"Delete\",",
              "  \"table_name\": \"t\",",
              "  \"fields\": [],",
              "  \"aliases\": \x7b\x7d,",
              "  \"conditions\": [",
              "    \x7b",
              "      \"operand1\": \"a\",",
              "      \"operand1_is_field\": true,",
              "      \"operator\": \"Lt\",",
              "      \"operand2\": \"b\",",
              "      \"operand2_is_field\": true",
              "    \x7d",
              "  ],",
              "  \"updates\": [],",
              "  \"inserts\": []",
              "\x7d"] :: rest) ∧
    ∃ rest,
      respondToAll ⟨.sql⟩ ["!format JSON", "!format  dEBUG ", "delete from 't' where a<b"] =
        ["Format set to JSON", "Format set to dEBUG"] ++
          "\n".intercalate
            ["Ast \x7b",
              "    statement_type: Delete,",
              "    table_name: \"t\",",
              "    fields: [],",
              "    aliases: \x7b\x7d,",
              "    conditions: [",
              "        Condition \x7b",
              "            operand1: \"a\",",
              "            operand1_is_field: true,",
              "            operator: Lt,",
              "            operand2: \"b\",",
              "            operand2_is_field: true,",
              "        \x7d,",
              "    ],",
              "    updates: [],",
              "    inserts: [],",
              "\x7d"] :: rest := by
  obtain ⟨-, -, -, rendered, holds⟩ := respondToAll_without_failing .sql
  have noCommand : isCommand "delete from 't' where a<b".toList = false := rfl
  have reads : Statement.ofText "delete from 't' where a<b" =
      .ok { Statement.ofTable .delete "t" with
        conditions := [⟨.field "a", .less, .field "b"⟩] } := by decide +kernel
  obtain ⟨inBlock, asJson, asText⟩ := rendered { Statement.ofTable .delete "t" with
    conditions := [⟨.field "a", .less, .field "b"⟩] }
  refine ⟨?_, ?_, ?_, ?_⟩
  · have fails : ((Console.afterAll ⟨.sql, []⟩ ["!format JSON"]).run
        (ConsoleStep.entry "!format xml")).1 =
          .error (.input "unknown format xml") := by
      rfl
    exact (holds ["!format JSON"] "!format xml" ["delete from 't' where a<b"]).1 _ fails
  · obtain ⟨rest, shown⟩ :=
      (holds [] "delete from 't' where a<b" ["!format JSON"]).2 _ noCommand reads
    have initial : formatAfter .sql [] = .sql := rfl
    rw [initial, asText] at shown
    exact ⟨rest, shown⟩
  · obtain ⟨rest, shown⟩ :=
      (holds ["!format JSON", "!format xml"] "delete from 't' where a<b" []).2 _
        noCommand reads
    have named : formatAfter .sql ["!format JSON", "!format xml"] = .json := rfl
    rw [named, asJson] at shown
    refine ⟨rest, shown.trans ?_⟩
    exact congrArg₂ (fun earlier text => earlier ++ text :: rest) (by rfl)
      (by decide +kernel)
  · obtain ⟨rest, shown⟩ :=
      (holds ["!format JSON", "!format  dEBUG "] "delete from 't' where a<b" []).2 _
        noCommand reads
    have named : formatAfter .sql ["!format JSON", "!format  dEBUG "] = .debug := rfl
    rw [named, inBlock] at shown
    refine ⟨rest, shown.trans ?_⟩
    exact congrArg₂ (fun earlier text => earlier ++ text :: rest) (by rfl)
      (by decide +kernel)

end Session

end SqlDialect
