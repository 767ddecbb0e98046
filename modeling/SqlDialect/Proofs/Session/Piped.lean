import SqlDialect.Proofs.Session.Lines
import SqlDialect.Shell.Invocation

/-!
# Sessions that read texts from an input

Texts that are one entry each, with a line break between neighbours, are the entries
of a session, without the blanks at their ends. Those blanks do not matter to a
statement, so the session prints what it prints for the texts one by one
(`Invocation.runReading_of_isOneEntry`).
-/

namespace SqlDialect

/-! ## The entries of an input -/

section

variable
  {text : String}
  {edit : List Char → List Char}

/-- The first entry of an input is the text before a line break or the end, if that
text is one entry. -/
theorem entriesEditedBy_append
    {after : String}
    (oneEntry : IsOneEntry text)
    (keeps : ∀ typed ⊆ text.toList, edit typed = typed)
    (breaks : ∀ first ∈ after.toList.head?, first = '\n') :
    entriesEditedBy edit (text ++ after) =
      String.ofList (trimBlanks text.toList) ::
        entriesEditedBy edit (String.ofList (after.toList.drop 1)) := by
  have nonempty : text.toList ++ after.toList ≠ [] := by
    intro empty
    have notBlank := oneEntry.notBlank
    rw [(List.append_eq_nil_iff.mp empty).1] at notBlank
    cases notBlank
  obtain ⟨entry, dropped, assembled, whole, blank⟩ :=
    oneEntry.exists_assemble keeps breaks (List.nil_append _).symm nonempty
  rw [entriesEditedBy, entriesEditedBy, String.toList_append, assembled, List.map_cons,
    String.toList_ofList, whole, trimBlanks_append_of_isBlank blank]

/-- Texts that are one entry each are the entries of an input, without the blanks at
their ends. -/
theorem entriesEditedBy_intercalate
    {texts : List String}
    {ending : String}
    (oneEntry : ∀ entry ∈ text :: texts, IsOneEntry entry)
    (keeps : ∀ typed ⊆ (text :: texts).flatMap String.toList, edit typed = typed)
    (isEnding : ending = "" ∨ ending = "\n") :
    entriesEditedBy edit ("\n".intercalate (text :: texts) ++ ending) =
      (text :: texts).map fun entry => String.ofList (trimBlanks entry.toList) := by
  -- The induction takes off the first text with the line break after it.
  induction texts generalizing text with
  | nil =>
      have keepsText : ∀ typed ⊆ text.toList, edit typed = typed := by
        simpa using keeps
      have textOneEntry := oneEntry text List.mem_cons_self
      have breaks : ∀ first ∈ ending.toList.head?, first = '\n' := by
        rcases isEnding with rfl | rfl <;> simp
      have noMore : ending.toList.drop 1 = [] := by
        rcases isEnding with rfl | rfl <;> simp
      rw [String.intercalate_singleton,
        entriesEditedBy_append textOneEntry keepsText breaks, noMore]
      rfl
  | cons next texts inductionHypothesis =>
      obtain ⟨textOneEntry, othersOneEntry⟩ := List.forall_mem_cons.mp oneEntry
      rw [List.flatMap_cons] at keeps
      have keepsText : ∀ typed ⊆ text.toList, edit typed = typed :=
        fun typed inText => keeps typed (List.subset_append_of_subset_left _ inText)
      have keepsOthers : ∀ typed ⊆ (next :: texts).flatMap String.toList,
          edit typed = typed :=
        fun typed inOthers =>
          keeps typed (List.subset_append_of_subset_right _ inOthers)
      let others := "\n".intercalate (next :: texts) ++ ending
      have split : "\n".intercalate (text :: next :: texts) ++ ending =
          text ++ ("\n" ++ others) := by
        simp [others, String.append_assoc]
      have breaks : ∀ first ∈ ("\n" ++ others).toList.head?, first = '\n' := by simp
      have afterBreak : String.ofList (("\n" ++ others).toList.drop 1) = others := by
        simp
      rw [split, entriesEditedBy_append textOneEntry keepsText breaks, afterBreak,
        inductionHypothesis othersOneEntry keepsOthers]
      rfl

end

namespace Session

/-- What a session prints in response to an entry: what the entry prints, or the
report of its failure. -/
def shown (session : Session) (entry : String) : List String :=
  match session.respond entry with
  | .ok (printed, _) => printed
  | .error failure => [report failure]

/-- A session responds to an entry that is neither a command nor empty as to a
statement. -/
theorem respond_of_isOneEntry
    {text : String}
    (oneEntry : IsOneEntry text)
    (session : Session) :
    session.respond text = session.respondToStatement text := by
  have noCommand := isCommand_of_trimBlanks oneEntry.noCommand
  have nonempty : text ≠ "" := by
    rintro rfl
    cases oneEntry.notBlank
  simp [respond, noCommand, nonempty]

/-- The blanks at both ends of an entry do not matter to the response. -/
theorem respond_trimBlanks
    {text : String}
    (oneEntry : IsOneEntry text)
    (session : Session) :
    session.respond (String.ofList (trimBlanks text.toList)) =
      session.respond text := by
  have nonempty : String.ofList (trimBlanks text.toList) ≠ "" := by
    rw [ne_eq, String.ofList_eq_empty_iff]
    exact trimBlanks_ne_nil oneEntry.notBlank
  have trimmed : session.respond (String.ofList (trimBlanks text.toList)) =
      session.respondToStatement (String.ofList (trimBlanks text.toList)) := by
    simp [respond, oneEntry.noCommand, nonempty]
  rw [respond_of_isOneEntry oneEntry, trimmed, respondToStatement, respondToStatement,
    Statement.ofText_trimBlanks]

/-- A line break alone prints nothing. -/
theorem respondToAll_of_ending
    {edit : List Char → List Char}
    {ending : String}
    (keepsNothing : edit [] = [])
    (isEnding : ending = "" ∨ ending = "\n")
    (session : Session) :
    session.respondToAll (entriesEditedBy edit ending) = [] := by
  rcases isEnding with rfl | rfl
  · rfl
  · have lines : InputLine.ofText "\n".toList = [⟨[], .newline⟩] := by decide
    have emptyEntry : entriesEditedBy edit "\n" = [""] := by
      rw [entriesEditedBy, lines, assemble, List.append_nil, keepsNothing]
      rfl
    rw [emptyEntry]
    rfl

/-- A statement leaves the session as it was. -/
theorem respondToAll_of_isOneEntry
    {texts : List String}
    (oneEntry : ∀ text ∈ texts, IsOneEntry text)
    (session : Session) :
    session.respondToAll
        (texts.map fun text => String.ofList (trimBlanks text.toList)) =
      texts.flatMap session.shown := by
  induction texts with
  | nil => rfl
  | cons text texts inductionHypothesis =>
      obtain ⟨first, others⟩ := List.forall_mem_cons.mp oneEntry
      rw [List.map_cons, respondToAll, respond_trimBlanks first, List.flatMap_cons,
        ← inductionHypothesis others, shown, respond_of_isOneEntry first,
        respondToStatement]
      cases Statement.ofText text <;> rfl

end Session

/-- An input of texts that are one entry each, with a line break between neighbours
and possibly one at the end, prints in order what the session prints for each of them
alone, with the blanks at its ends. So it is for every way to edit what is typed that
changes nothing typed with the characters of these texts, and for backspaces if there
are none. -/
theorem Invocation.runReading_of_isOneEntry
    {texts : List String}
    {ending : String}
    (oneEntry : ∀ text ∈ texts, IsOneEntry text)
    (isEnding : ending = "" ∨ ending = "\n")
    (sources : SettingSources)
    (session : Session) :
    (∀ edit : List Char → List Char,
      (∀ typed ⊆ texts.flatMap String.toList, edit typed = typed) →
      (Invocation.mk sources none ("\n".intercalate texts ++ ending)).runReading
          (entriesEditedBy edit) session =
        ⟨greeting :: texts.flatMap session.shown, []⟩) ∧
    ((∀ text ∈ texts, backspace ∉ text.toList) →
      (Invocation.mk sources none ("\n".intercalate texts ++ ending)).runIn session =
        ⟨greeting :: texts.flatMap session.shown, []⟩) := by
  have reading (edit : List Char → List Char)
      (keeps : ∀ typed ⊆ texts.flatMap String.toList, edit typed = typed) :
      (Invocation.mk sources none ("\n".intercalate texts ++ ending)).runReading
          (entriesEditedBy edit) session =
        ⟨greeting :: texts.flatMap session.shown, []⟩ := by
    rw [← Session.respondToAll_of_isOneEntry oneEntry session]
    cases texts with
    | nil =>
        have keepsNothing := keeps [] (List.nil_subset _)
        have noLines := session.respondToAll_of_ending keepsNothing isEnding
        rw [String.intercalate_nil, String.empty_append]
        exact congrArg (fun lines => Transcript.mk (greeting :: lines) []) noLines
    | cons text texts =>
        rw [← entriesEditedBy_intercalate oneEntry keeps isEnding]
        rfl
  refine ⟨reading, fun noBackspace => reading withoutTakenBack ?_⟩
  intro typed inTexts
  apply withoutTakenBack_eq_self
  intro member
  obtain ⟨text, isText, inText⟩ := List.mem_flatMap.mp (inTexts member)
  exact noBackspace text isText inText

/-- A selection with a line break inside its quotes, and a text that is no statement,
after which the return before the line break is dropped. -/
theorem Invocation.runReading_of_isOneEntry_quotedBreak :
    (∀ text ∈ ["SELECT a FROM 'us\r\ners'", "DROP 'users'\r"], IsOneEntry text) ∧
    (Invocation.mk ⟨none, none, none, [], ""⟩ none
        "SELECT a FROM 'us\r\ners'\nDROP 'users'\r\n").runReading
          (entriesEditedBy id) ⟨.sql⟩ =
      ⟨[greeting, "SELECT a FROM 'us\r\ners'", "Error: query type cannot be empty"],
        []⟩ ∧
    (Invocation.mk ⟨none, none, none, [], ""⟩ none
        "SELECT a FROM 'us\r\ners'\nDROP 'users'\r\n").runIn ⟨.sql⟩ =
      ⟨[greeting, "SELECT a FROM 'us\r\ners'", "Error: query type cannot be empty"],
        []⟩ := by
  have oneEntry : ∀ text ∈ ["SELECT a FROM 'us\r\ners'", "DROP 'users'\r"],
      IsOneEntry text := of_decide_eq_true (by decide +kernel)
  have read : Statement.ofText "SELECT a FROM 'us\r\ners'" =
      .ok { Statement.ofTable .select "us\r\ners" with fields := ["a"] } := by decide +kernel
  have refused : Statement.ofText "DROP 'users'\r" = .error .unknownStatement := by decide +kernel
  have rendered : OutputFormat.sql.render
      { Statement.ofTable .select "us\r\ners" with fields := ["a"] } =
        "SELECT a FROM 'us\r\ners'" := by decide
  obtain ⟨first, second⟩ := List.forall_mem_cons.mp oneEntry
  have printed : ["SELECT a FROM 'us\r\ners'", "DROP 'users'\r"].flatMap
      (Session.shown ⟨.sql⟩) =
        ["SELECT a FROM 'us\r\ners'", "Error: query type cannot be empty"] := by
    rw [List.flatMap_cons, List.flatMap_singleton, Session.shown, Session.shown,
      Session.respond_of_isOneEntry first,
      Session.respond_of_isOneEntry (second _ (List.mem_singleton_self _)),
      Session.respondToStatement, Session.respondToStatement, read, refused]
    exact congrArg (fun line => [line, "Error: query type cannot be empty"]) rendered
  obtain ⟨reading, running⟩ := Invocation.runReading_of_isOneEntry oneEntry
    (.inr rfl) ⟨none, none, none, [], ""⟩ ⟨.sql⟩
  rw [printed] at reading running
  exact ⟨oneEntry, reading id (fun _ _ => rfl), running (by decide)⟩

end SqlDialect
