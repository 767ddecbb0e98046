import SqlDialect.Shell.Command
import SqlDialect.Text.Backspace
import SqlDialect.Token.Scan

/-!
# Entries from lines

What is typed into a session comes in lines. An entry is one line, unless that
line ends inside a quote: then the line break belongs to the quoted text, and the
entry goes on with the next line. Blank lines and commands are entries at once.

A backspace takes back what was typed before it in the same entry, which may be
the break before its line. This is done whenever a line has been read, and before
it is decided whether the entry is complete.

A text that ends before its last entry is complete loses that entry.
-/

namespace SqlDialect

/-- What ends a line. -/
inductive LineEnding
  | none
  | newline
  | returnNewline
  deriving DecidableEq

/-- The characters that end a line. -/
def LineEnding.text : LineEnding → List Char
  | none => []
  | newline => ['\n']
  | returnNewline => ['\r', '\n']

/-- A line without its ending, and its ending. -/
structure InputLine where
  content : List Char
  ending : LineEnding
  deriving DecidableEq

namespace InputLine

/-- A line with its ending. -/
def text (line : InputLine) : List Char :=
  line.content ++ line.ending.text

/-- Put a character before a line. A return directly before the newline becomes
a part of the ending. -/
def push (character : Char) (line : InputLine) : InputLine :=
  if character = '\r' ∧ line = ⟨[], .newline⟩ then
    ⟨[], .returnNewline⟩
  else
    ⟨character :: line.content, line.ending⟩

theorem text_push (character : Char) (line : InputLine) :
    (push character line).text = character :: line.text := by
  rw [push]
  by_cases closing : character = '\r' ∧ line = ⟨[], .newline⟩
  · rw [if_pos closing, closing.1, closing.2]
    rfl
  · rw [if_neg closing]
    rfl

/-- The lines of a text. -/
def ofText : List Char → List InputLine
  | [] => []
  | character :: rest =>
      if character = '\n' then
        ⟨[], .newline⟩ :: ofText rest
      else
        match ofText rest with
        | [] => [⟨[character], .none⟩]
        | line :: lines => push character line :: lines

/-- The lines of a text make up the text. -/
theorem flatMap_text_ofText (input : List Char) :
    (ofText input).flatMap text = input := by
  induction input with
  | nil => rfl
  | cons character rest inductionHypothesis =>
      rw [ofText]
      by_cases isNewline : character = '\n'
      · simp [isNewline, inductionHypothesis, text, LineEnding.text]
      rw [if_neg isNewline]
      cases lines : ofText rest with
      | nil =>
          rw [lines] at inductionHypothesis
          simp [← inductionHypothesis, text, LineEnding.text]
      | cons line others =>
          rw [lines, List.flatMap_cons] at inductionHypothesis
          rw [List.flatMap_cons, text_push, ← inductionHypothesis]
          rfl

end InputLine

/-- Whether an entry is complete. -/
def isComplete (entry : List Char) : Bool :=
  isAllBlank entry || isCommand entry || !endsInsideQuote (String.ofList entry)

/-- The entries that some lines make up, after what is there of the first one. What
is typed is edited whenever a line has been read. -/
def assemble
    (edit : List Char → List Char)
    (begun : List Char) : List InputLine → List (List Char)
  | [] => []
  | line :: lines =>
      let entry := edit (begun ++ line.content)
      if isComplete entry then
        entry :: assemble edit [] lines
      else
        assemble edit (entry ++ line.ending.text) lines

/-- The entries of a text that is edited as it is typed, without the blanks at both
ends of each. -/
def entriesEditedBy
    (edit : List Char → List Char)
    (input : String) : List String :=
  (assemble edit [] (InputLine.ofText input.toList)).map fun entry =>
    String.ofList (trimBlanks entry)

/-- The entries of a text, from which its backspaces take back what they can. -/
def entriesOf : String → List String :=
  entriesEditedBy withoutTakenBack

end SqlDialect
