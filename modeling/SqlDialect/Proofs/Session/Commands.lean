import SqlDialect.Proofs.Session.Lines

/-!
# The lines of a command

An entry is made of one line or of several, and `entriesTaking` keeps the lines with
it. Whether an entry goes on after its first line is decided on that line as it was
typed: if it begins with the mark of a command, or does not end inside a quote, the
entry is over. Only an entry that goes on can be lost at the end
(`entriesTaking_linesOfCommand`).

So a command is a single line, and is not lost, if its mark is the first character of
the line. But whether an entry is a command is found out later, without the blanks
before it. A command with a blank before its mark and an open quote in its argument
takes in the next lines, and is lost if none of them closes the quote
(`not_forall_command_oneLine`).
-/

namespace SqlDialect

/-- What has been typed of an entry, and the lines in which it was typed. -/
structure TakenEntry where
  text : List Char
  lines : List InputLine
  deriving DecidableEq

/-- An entry without the blanks at its ends, as a session gets it. -/
def TakenEntry.entry (taken : TakenEntry) : String :=
  String.ofList (trimBlanks taken.text)

/-- The entries that some lines make up, each with its lines, after what is there of
the first one and the lines that it took so far. -/
def assembleTaking
    (edit : List Char → List Char)
    (begun : List Char)
    (taken : List InputLine) : List InputLine → List TakenEntry
  | [] => []
  | line :: lines =>
      let entry := edit (begun ++ line.content)
      if isComplete entry then
        ⟨entry, taken ++ [line]⟩ :: assembleTaking edit [] [] lines
      else
        assembleTaking edit (entry ++ line.ending.text) (taken ++ [line]) lines

/-- The entries of a text that is edited as it is typed, each with its lines. -/
def entriesTaking
    (edit : List Char → List Char)
    (input : String) : List TakenEntry :=
  assembleTaking edit [] [] (InputLine.ofText input.toList)

section

variable
  {edit : List Char → List Char}
  {begun : List Char}
  {taken lines : List InputLine}
  {line : InputLine}

/-- Keeping the lines of entries does not change the entries. -/
theorem map_text_assembleTaking
    (edit : List Char → List Char)
    (begun : List Char)
    (taken lines : List InputLine) :
    (assembleTaking edit begun taken lines).map TakenEntry.text =
      assemble edit begun lines := by
  induction lines generalizing begun taken with
  | nil => rfl
  | cons line lines inductionHypothesis =>
      simp only [assembleTaking, assemble]
      split
      · rw [List.map_cons, inductionHypothesis]
      · rw [inductionHypothesis]

/-- The entries with their lines are those of the text. -/
theorem map_entry_entriesTaking
    (edit : List Char → List Char)
    (input : String) :
    (entriesTaking edit input).map TakenEntry.entry = entriesEditedBy edit input := by
  rw [entriesEditedBy, ← map_text_assembleTaking edit [] [], List.map_map]
  rfl

/-- Editing that keeps what is typed with some characters makes no difference to lines
of these characters. -/
theorem assembleTaking_eq_of_keeps
    {letters : List Char}
    (keeps : ∀ typed ⊆ letters, edit typed = typed)
    (inLetters : begun ++ lines.flatMap InputLine.text ⊆ letters) :
    assembleTaking edit begun taken lines = assembleTaking id begun taken lines := by
  induction lines generalizing begun taken with
  | nil => rfl
  | cons line lines inductionHypothesis =>
      have split : begun ++ (line :: lines).flatMap InputLine.text =
          begun ++ line.content ++ line.ending.text ++ lines.flatMap InputLine.text := by
        simp [InputLine.text]
      rw [split] at inLetters
      obtain ⟨laterBegun, later⟩ := List.append_subset.mp inLetters
      have typed := (List.append_subset.mp laterBegun).1
      rw [assembleTaking, assembleTaking, keeps _ typed, id]
      split
      · rw [@inductionHypothesis [] [] later]
      · exact inductionHypothesis inLetters

/-! ## Entries that go on -/

/-- What is there of an entry that goes on stands in the lines it took, and the first
of them did not complete it. -/
structure GoesOn
    (begun : List Char)
    (taken : List InputLine) : Prop where
  typed : begun = taken.flatMap InputLine.text
  incomplete : ∀ first ∈ taken.head?, isComplete first.content = false

namespace GoesOn

/-- Nothing is there of an entry before its first line. -/
theorem nothing : GoesOn [] [] :=
  ⟨rfl, by simp⟩

/-- An entry that its next line does not complete goes on. -/
theorem concat
    (goesOn : GoesOn begun taken)
    (incomplete : isComplete (begun ++ line.content) = false) :
    GoesOn (begun ++ line.content ++ line.ending.text) (taken ++ [line]) := by
  constructor
  · rw [goesOn.typed, List.flatMap_append, List.flatMap_singleton, InputLine.text,
      List.append_assoc]
  · cases taken with
    | nil =>
        rw [goesOn.typed] at incomplete
        simpa using incomplete
    | cons first others => exact goesOn.incomplete

/-- An entry that its next line completes took that line only if the line is complete
by itself. -/
theorem exists_lines
    (goesOn : GoesOn begun taken)
    (complete : isComplete (begun ++ line.content) = true) :
    ∃ first others,
      taken ++ [line] = first :: others ∧
        first.content <+: begun ++ line.content ∧
        (others = [] ↔ isComplete first.content = true) := by
  cases taken with
  | nil =>
      rw [goesOn.typed] at complete ⊢
      exact ⟨line, [], rfl, List.prefix_rfl, iff_of_true rfl complete⟩
  | cons first others =>
      refine ⟨first, others ++ [line], rfl, ?_, ?_⟩
      · rw [goesOn.typed, List.flatMap_cons, InputLine.text]
        simp only [List.append_assoc]
        exact List.prefix_append _ _
      · simp [goesOn.incomplete first rfl]

/-- Every entry begins with its first line, and that is the only one exactly if it is
complete by itself. -/
theorem exists_lines_of_mem
    {found : TakenEntry}
    (goesOn : GoesOn begun taken)
    (member : found ∈ assembleTaking id begun taken lines) :
    ∃ first others,
      found.lines = first :: others ∧
        first.content <+: found.text ∧
        (others = [] ↔ isComplete first.content = true) := by
  induction lines generalizing begun taken with
  | nil => cases member
  | cons line lines inductionHypothesis =>
      rw [assembleTaking, id] at member
      by_cases complete : isComplete (begun ++ line.content) = true
      · rw [if_pos complete] at member
        rcases List.mem_cons.mp member with rfl | later
        · exact goesOn.exists_lines complete
        · exact inductionHypothesis nothing later
      · rw [if_neg complete] at member
        rw [Bool.not_eq_true] at complete
        exact inductionHypothesis (goesOn.concat complete) member

/-- The lines of the entries stand one after another from the first line on. What is
left then is an entry that goes on at the end. -/
theorem exists_flatMap_lines
    (goesOn : GoesOn begun taken) :
    ∃ lost,
      taken ++ lines =
          (assembleTaking id begun taken lines).flatMap TakenEntry.lines ++ lost ∧
        ∀ first ∈ lost.head?, isComplete first.content = false := by
  induction lines generalizing begun taken with
  | nil => exact ⟨taken, List.append_nil _, goesOn.incomplete⟩
  | cons line lines inductionHypothesis =>
      rw [List.append_cons, assembleTaking, id]
      by_cases complete : isComplete (begun ++ line.content) = true
      · rw [if_pos complete]
        obtain ⟨lost, split, incomplete⟩ := inductionHypothesis nothing
        refine ⟨lost, ?_, incomplete⟩
        rw [List.flatMap_cons, List.append_assoc _ _ lost, ← split, List.nil_append]
      · rw [if_neg complete]
        rw [Bool.not_eq_true] at complete
        exact inductionHypothesis (goesOn.concat complete)

end GoesOn

/-- A line is over as an entry if it begins with the mark of a command or does not end
inside a quote. -/
theorem isComplete_iff (content : List Char) :
    isComplete content = true ↔
      isCommand content = true ∨ endsInsideQuote (String.ofList content) = false := by
  cases command : isCommand content with
  | true => simp [isComplete, command]
  | false => simp [isComplete_eq_of_noCommand command]

/-- For a line that ends inside a quote, the mark of a command may be looked for in any
entry that begins with the line, since the line is not empty. -/
theorem isCommand_or_closed_iff
    {content entry : List Char}
    (begins : content <+: entry) :
    (isCommand content = true ∨ endsInsideQuote (String.ofList content) = false) ↔
      isCommand entry = true ∨ endsInsideQuote (String.ofList content) = false := by
  obtain ⟨rest, rfl⟩ := begins
  cases content with
  | nil =>
      have closed : endsInsideQuote (String.ofList []) = false := by decide +kernel
      simp [closed]
  | cons mark letters => exact Iff.rfl

/-- The entries of a text that editing leaves as it was typed, with their lines. An
entry takes one line exactly if it begins with the mark of a command, or its first line
does not end inside a quote. The lines that no entry took stand at the end, and the
first of them neither begins with the mark of a command nor ends outside of quotes. -/
theorem entriesTaking_linesOfCommand
    {input : String}
    (keeps : ∀ typed ⊆ input.toList, edit typed = typed) :
    (entriesTaking edit input).map TakenEntry.entry = entriesEditedBy edit input ∧
      (∀ taken ∈ entriesTaking edit input,
        taken.lines.length = 1 ↔
          isCommand taken.text = true ∨
            ∀ first ∈ taken.lines.head?,
              endsInsideQuote (String.ofList first.content) = false) ∧
      ∃ lost,
        InputLine.ofText input.toList =
            (entriesTaking edit input).flatMap TakenEntry.lines ++ lost ∧
          ∀ first ∈ lost.head?,
            isCommand first.content = false ∧
              endsInsideQuote (String.ofList first.content) = true := by
  have inInput : [] ++ (InputLine.ofText input.toList).flatMap InputLine.text ⊆
      input.toList := by
    rw [List.nil_append, InputLine.flatMap_text_ofText]
    exact List.Subset.refl _
  refine ⟨map_entry_entriesTaking edit input, ?_, ?_⟩
  · intro taken member
    rw [entriesTaking, assembleTaking_eq_of_keeps keeps inInput] at member
    obtain ⟨first, others, lines, begins, isOnly⟩ :=
      GoesOn.nothing.exists_lines_of_mem member
    rw [lines, List.length_cons, Nat.add_eq_right, List.length_eq_zero_iff, isOnly,
      isComplete_iff, isCommand_or_closed_iff begins]
    simp
  · rw [entriesTaking, assembleTaking_eq_of_keeps keeps inInput]
    obtain ⟨lost, split, incomplete⟩ := GoesOn.nothing.exists_flatMap_lines
    rw [List.nil_append] at split
    refine ⟨lost, split, fun first isFirst => ?_⟩
    have undecided := incomplete first isFirst
    rw [← Bool.not_eq_true, isComplete_iff, not_or, Bool.not_eq_true,
      Bool.not_eq_false] at undecided
    exact undecided

end

/-- Two commands that are one line each, although quotes are open at their ends, and a
third one that is lost. -/
theorem entriesTaking_linesOfCommand_openQuotes :
    (∀ typed ⊆ "!tokens 'a\n!tokens b'\n !tokens 'c".toList,
      withoutTakenBack typed = typed) ∧
    entriesOf "!tokens 'a\n!tokens b'\n !tokens 'c" = ["!tokens 'a", "!tokens b'"] ∧
    ∀ taken ∈ entriesTaking withoutTakenBack "!tokens 'a\n!tokens b'\n !tokens 'c",
      taken.lines.length = 1 := by
  have keeps : ∀ typed ⊆ "!tokens 'a\n!tokens b'\n !tokens 'c".toList,
      withoutTakenBack typed = typed := by
    intro typed inInput
    apply withoutTakenBack_eq_self
    intro member
    exact absurd (inInput member) (by decide)
  have listed :
      entriesTaking withoutTakenBack "!tokens 'a\n!tokens b'\n !tokens 'c" =
        [⟨"!tokens 'a".toList, [⟨"!tokens 'a".toList, .newline⟩]⟩,
          ⟨"!tokens b'".toList, [⟨"!tokens b'".toList, .newline⟩]⟩] := by decide +kernel
  obtain ⟨entries, oneLine, -⟩ := entriesTaking_linesOfCommand keeps
  rw [listed] at entries oneLine
  refine ⟨keeps, ?_, ?_⟩
  · rw [entriesOf, ← entries]
    decide
  · rw [listed]
    intro taken member
    refine (oneLine taken member).mpr (.inl ?_)
    revert taken
    decide

/-- A command with a blank before its mark takes in the next line, which is a command
too, if a quote is open in its argument. It is lost if the text ends there. -/
theorem not_forall_command_oneLine :
    (¬∀ (input : String), ∀ taken ∈ entriesTaking withoutTakenBack input,
      isCommand taken.entry.toList = true → taken.lines.length = 1) ∧
    isCommand (trimBlanks " !tokens 'c\n".toList) = true ∧
    entriesOf " !tokens 'c\n" = [] := by
  refine ⟨?_, by decide, by decide +kernel⟩
  intro oneLine
  have listed : entriesTaking withoutTakenBack " !tokens 'a\n!tokens b'\n" =
      [⟨" !tokens 'a\n!tokens b'".toList,
        [⟨" !tokens 'a".toList, .newline⟩, ⟨"!tokens b'".toList, .newline⟩]⟩] := by decide +kernel
  have both := oneLine " !tokens 'a\n!tokens b'\n" _
    (listed ▸ List.mem_singleton_self _) (by decide)
  cases both

end SqlDialect
