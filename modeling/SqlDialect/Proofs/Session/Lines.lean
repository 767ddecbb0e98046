import SqlDialect.Proofs.Faults.OpenQuote
import SqlDialect.Shell.Entries

/-!
# One entry on several lines

A text is typed as one entry if it is no command, is closed, and breaks its lines
inside quotes only (`IsOneEntry`). Line by line, what has been read ends inside a
quote up to the last line, so it is complete there and not before.

A return before the end of a line is dropped with the line break and put back with
it. On the last line it is not put back, but there it is one of the blanks after the
text.
-/

namespace SqlDialect

/-- Whether a text is typed as one entry that is a statement: it is neither blank nor
a command, it does not end inside a quote, and wherever a line of it ends, a quote is
open. -/
structure IsOneEntry (text : String) : Prop where
  notBlank : isAllBlank text.toList = false
  noCommand : isCommand (trimBlanks text.toList) = false
  closed : endsInsideQuote text = false
  breaksQuoted : ∀ front back, text.toList = front ++ '\n' :: back →
    endsInsideQuote (String.ofList front) = true

/-- Whether a quote is open at each line break among some letters, which stand after
others. -/
def breaksQuotedAfter (before : List Char) : List Char → Bool
  | [] => true
  | letter :: letters =>
      if letter = '\n' && !endsInsideQuote (String.ofList before) then
        false
      else
        breaksQuotedAfter (before ++ [letter]) letters

/-- All line breaks are within quotes if every front that a line break follows ends in
one. -/
theorem breaksQuotedAfter_eq_true_iff
    {before letters : List Char} :
    breaksQuotedAfter before letters = true ↔
      ∀ front back, letters = front ++ '\n' :: back →
        endsInsideQuote (String.ofList (before ++ front)) = true := by
  induction letters generalizing before with
  | nil => simp [breaksQuotedAfter]
  | cons letter letters inductionHypothesis =>
      rw [breaksQuotedAfter]
      constructor
      · intro breaks front back split
        by_cases unquoted : letter = '\n' && !endsInsideQuote (String.ofList before)
        · rw [if_pos unquoted] at breaks
          cases breaks
        rw [if_neg unquoted] at breaks
        cases front with
        | nil =>
            obtain ⟨rfl, rfl⟩ := List.cons_eq_cons.mp split
            simpa using unquoted
        | cons first front =>
            obtain ⟨rfl, laterSplit⟩ := List.cons_eq_cons.mp split
            have later := inductionHypothesis.mp breaks front back laterSplit
            rwa [List.append_assoc] at later
      · intro breaks
        have quotedHere :
            ¬(letter = '\n' && !endsInsideQuote (String.ofList before)) := by
          intro unquoted
          simp only [Bool.and_eq_true, decide_eq_true_eq, Bool.not_eq_true'] at unquoted
          obtain ⟨rfl, unquoted⟩ := unquoted
          have quoted := breaks [] letters rfl
          rw [List.append_nil, unquoted] at quoted
          cases quoted
        rw [if_neg quotedHere]
        refine inductionHypothesis.mpr fun front back split => ?_
        rw [List.append_assoc]
        exact breaks (letter :: front) back (by rw [split, List.cons_append])

/-- It can be computed whether a text is typed as one entry. -/
theorem isOneEntry_iff (text : String) :
    IsOneEntry text ↔
      (isAllBlank text.toList = false ∧ isCommand (trimBlanks text.toList) = false ∧
        endsInsideQuote text = false ∧ breaksQuotedAfter [] text.toList = true) := by
  rw [breaksQuotedAfter_eq_true_iff]
  constructor
  · rintro ⟨notBlank, noCommand, closed, breaksQuoted⟩
    exact ⟨notBlank, noCommand, closed, breaksQuoted⟩
  · rintro ⟨notBlank, noCommand, closed, breaksQuoted⟩
    exact ⟨notBlank, noCommand, closed, breaksQuoted⟩

instance (text : String) : Decidable (IsOneEntry text) :=
  decidable_of_iff' _ (isOneEntry_iff text)

/-! ## Lines -/

namespace InputLine

/-- The first line of a text goes up to the first line break or to the end. What it
drops before the line break is blank. -/
theorem exists_ofText_append
    {letters after : List Char}
    (noBreak : '\n' ∉ letters)
    (nonempty : letters ++ after ≠ [])
    (breaks : ∀ first ∈ after.head?, first = '\n') :
    ∃ line dropped,
      ofText (letters ++ after) = line :: ofText (after.drop 1) ∧
        line.text = letters ++ after.take 1 ∧
        letters = line.content ++ dropped ∧
        ∀ character ∈ dropped, isBlank character = true := by
  induction letters with
  | nil =>
      obtain ⟨first, rest, rfl⟩ := List.exists_cons_of_ne_nil nonempty
      obtain rfl : first = '\n' := breaks first rfl
      exact ⟨⟨[], .newline⟩, [], rfl, rfl, rfl, by simp⟩
  | cons letter letters inductionHypothesis =>
      rw [List.mem_cons, not_or] at noBreak
      by_cases last : letters ++ after = []
      · obtain ⟨rfl, rfl⟩ := List.append_eq_nil_iff.mp last
        refine ⟨⟨[letter], .none⟩, [], ?_, rfl, rfl, by simp⟩
        rw [List.append_nil, ofText, if_neg (Ne.symm noBreak.1)]
        rfl
      · obtain ⟨line, dropped, lines, text, content, blank⟩ :=
          inductionHypothesis noBreak.2 last
        have pushed : ofText (letter :: letters ++ after) =
            push letter line :: ofText (after.drop 1) := by
          rw [List.cons_append, ofText, if_neg (Ne.symm noBreak.1), lines]
        have pushedText : (push letter line).text =
            letter :: letters ++ after.take 1 := by
          rw [text_push, text, List.cons_append]
        -- A carriage return is dropped right before the line break, and nowhere else.
        by_cases closing : letter = '\r' ∧ line = ⟨[], .newline⟩
        · refine ⟨push letter line, letter :: dropped, pushed, pushedText, ?_, ?_⟩
          · rw [push, if_pos closing, content, closing.2]
            rfl
          · rw [closing.1]
            exact List.forall_mem_cons.mpr ⟨by decide, blank⟩
        · refine ⟨push letter line, dropped, pushed, pushedText, ?_, blank⟩
          rw [push, if_neg closing, List.cons_append, ← content]

end InputLine

/-! ## Complete entries -/

/-- A blank text ends outside of quotes. -/
theorem endsInsideQuote_of_isAllBlank
    {text : List Char}
    (allBlank : isAllBlank text = true) :
    endsInsideQuote (String.ofList text) = false := by
  have atStart := endsInsideQuote_append_of_isBlank
    (fun character member => List.all_eq_true.mp allBlank character member) []
  rw [List.nil_append] at atStart
  rw [atStart]
  decide +kernel

/-- A text that is no command is an entry exactly if it ends outside of quotes. -/
theorem isComplete_eq_of_noCommand
    {entry : List Char}
    (noCommand : isCommand entry = false) :
    isComplete entry = !endsInsideQuote (String.ofList entry) := by
  cases allBlank : isAllBlank entry with
  | true => simp [isComplete, allBlank, endsInsideQuote_of_isAllBlank allBlank]
  | false => simp [isComplete, allBlank, noCommand]

/-- The mark of a command is no blank, so it is not trimmed off. -/
theorem isCommand_of_trimBlanks
    {text : List Char}
    (noCommand : isCommand (trimBlanks text) = false) :
    isCommand text = false := by
  obtain ⟨front, back, whole, frontBlank, backBlank⟩ := exists_append_trimBlanks text
  have noMark (blanks : List Char)
      (blank : ∀ character ∈ blanks, isBlank character = true) :
      isCommand blanks = false := by
    cases blanks with
    | nil => rfl
    | cons first rest =>
        have notMark : first ≠ commandMark := by
          rintro rfl
          exact absurd (blank _ List.mem_cons_self) (by decide)
        simp [isCommand, notMark]
  rw [whole]
  cases front with
  | cons first rest => exact noMark (first :: rest) frontBlank
  | nil =>
      cases trimmed : trimBlanks text with
      | nil => exact noMark back backBlank
      | cons first rest =>
          rw [trimmed] at noCommand
          exact noCommand

/-! ## Entries from lines -/

namespace IsOneEntry

/-- What is there of an entry is complete exactly if it does not end inside a
quote. -/
theorem isComplete_eq
    {text : String}
    {front back : List Char}
    (oneEntry : IsOneEntry text)
    (whole : text.toList = front ++ back) :
    isComplete front = !endsInsideQuote (String.ofList front) := by
  apply isComplete_eq_of_noCommand
  have noCommand := isCommand_of_trimBlanks oneEntry.noCommand
  rw [whole] at noCommand
  cases front with
  | nil => rfl
  | cons first rest => exact noCommand

/-- An entry does not end with a line break, since none of its lines ends outside of
a quote. -/
theorem ne_concat_newline
    {text : String}
    (oneEntry : IsOneEntry text)
    (front : List Char) :
    text.toList ≠ front ++ ['\n'] := by
  intro whole
  have quoted := oneEntry.breaksQuoted front [] whole
  have closed := oneEntry.closed
  have blank : ∀ character ∈ ['\n'], isBlank character = true :=
    List.forall_mem_singleton.mpr isBlank_newline
  rw [← @String.ofList_toList text, whole, endsInsideQuote_append_of_isBlank blank,
    quoted] at closed
  cases closed

variable
  {text : String}
  {edit : List Char → List Char}
  {begun after : List Char}

/-- Editing that keeps what is typed with the characters of a text keeps what is
there of the text. -/
theorem edit_front
    {front back : List Char}
    (keeps : ∀ typed ⊆ text.toList, edit typed = typed)
    (whole : text.toList = front ++ back) :
    edit front = front := by
  apply keeps
  rw [whole]
  exact List.subset_append_left front back

/-- A line of an entry that another one follows is kept with its line break. -/
theorem assemble_line
    {letters later : List Char}
    (oneEntry : IsOneEntry text)
    (keeps : ∀ typed ⊆ text.toList, edit typed = typed)
    (whole : text.toList = begun ++ (letters ++ '\n' :: later))
    (noBreak : '\n' ∉ letters) :
    assemble edit begun (InputLine.ofText (letters ++ '\n' :: (later ++ after))) =
      assemble edit (begun ++ letters ++ ['\n'])
        (InputLine.ofText (later ++ after)) := by
  have isBreak : ∀ first ∈ ('\n' :: (later ++ after)).head?, first = '\n' := by simp
  obtain ⟨line, dropped, lines, lineText, content, blank⟩ :=
    InputLine.exists_ofText_append noBreak (by simp) isBreak
  have split : text.toList =
      (begun ++ line.content) ++ (dropped ++ '\n' :: later) := by
    rw [whole, content]
    simp only [List.append_assoc]
  have kept := edit_front keeps split
  have quoted : endsInsideQuote (String.ofList (begun ++ letters)) = true :=
    oneEntry.breaksQuoted _ later (by rw [whole, List.append_assoc])
  have incomplete : isComplete (begun ++ line.content) = false := by
    rw [oneEntry.isComplete_eq split, ← endsInsideQuote_append_of_isBlank blank,
      List.append_assoc, ← content, quoted]
    rfl
  have restored : begun ++ line.content ++ line.ending.text =
      begun ++ letters ++ ['\n'] := by
    rw [List.append_assoc, List.append_assoc]
    exact congrArg (begun ++ ·) lineText
  rw [lines, assemble, kept, if_neg (by simp [incomplete]), restored]
  rfl

/-- The last line of an entry makes it complete. -/
theorem exists_assemble_lastLine
    {letters : List Char}
    (oneEntry : IsOneEntry text)
    (keeps : ∀ typed ⊆ text.toList, edit typed = typed)
    (breaks : ∀ first ∈ after.head?, first = '\n')
    (whole : text.toList = begun ++ letters)
    (noBreak : '\n' ∉ letters)
    (nonempty : letters ++ after ≠ []) :
    ∃ entry dropped,
      assemble edit begun (InputLine.ofText (letters ++ after)) =
          entry :: assemble edit [] (InputLine.ofText (after.drop 1)) ∧
        text.toList = entry ++ dropped ∧
        ∀ character ∈ dropped, isBlank character = true := by
  obtain ⟨line, dropped, lines, -, content, blank⟩ :=
    InputLine.exists_ofText_append noBreak nonempty breaks
  have split : text.toList = (begun ++ line.content) ++ dropped := by
    rw [List.append_assoc, ← content, whole]
  have kept := edit_front keeps split
  have complete : isComplete (begun ++ line.content) = true := by
    rw [oneEntry.isComplete_eq split, ← endsInsideQuote_append_of_isBlank blank,
      ← split, String.ofList_toList, oneEntry.closed]
    rfl
  refine ⟨begun ++ line.content, dropped, ?_, split, blank⟩
  rw [lines, assemble, kept, if_pos complete]

/-- The lines of a text that is one entry are read up to its end. What is left out
there is blank. -/
theorem exists_assemble
    {remaining : List Char}
    (oneEntry : IsOneEntry text)
    (keeps : ∀ typed ⊆ text.toList, edit typed = typed)
    (breaks : ∀ first ∈ after.head?, first = '\n')
    (whole : text.toList = begun ++ remaining)
    (nonempty : remaining ++ after ≠ []) :
    ∃ entry dropped,
      assemble edit begun (InputLine.ofText (remaining ++ after)) =
          entry :: assemble edit [] (InputLine.ofText (after.drop 1)) ∧
        text.toList = entry ++ dropped ∧
        ∀ character ∈ dropped, isBlank character = true := by
  induction length : remaining.length using Nat.strong_induction_on
    generalizing begun remaining with
  | _ size inductionHypothesis =>
      by_cases breaksLine : '\n' ∈ remaining
      · obtain ⟨letters, later, rfl, noBreak⟩ := List.eq_append_cons_of_mem breaksLine
        have shorter : later.length < size := by
          rw [← length, List.length_append, List.length_cons]
          omega
        have laterWhole : text.toList = (begun ++ letters ++ ['\n']) ++ later := by
          rw [whole]
          simp only [List.append_assoc, List.singleton_append]
        have laterNonempty : later ++ after ≠ [] := by
          intro atEnd
          obtain ⟨rfl, -⟩ := List.append_eq_nil_iff.mp atEnd
          rw [List.append_nil] at laterWhole
          exact oneEntry.ne_concat_newline _ laterWhole
        rw [List.append_assoc, List.cons_append,
          oneEntry.assemble_line keeps whole noBreak]
        exact inductionHypothesis _ shorter laterWhole laterNonempty rfl
      · exact oneEntry.exists_assemble_lastLine keeps breaks whole breaksLine nonempty

end IsOneEntry

end SqlDialect
