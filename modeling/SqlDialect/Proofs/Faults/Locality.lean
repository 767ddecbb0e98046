import SqlDialect.Proofs.Faults.Clauses
import SqlDialect.Proofs.Faults.Prospect
import SqlDialect.Proofs.Grammar.Statement

/-!
# The first fault stands

A fault that has been found is not mended by what comes after it, nor does what
comes after it change it. So the front of a statement either can still become a
statement, or its fault is settled: `Statement.completable_or_settled`.

Two faults are found by looking ahead, and restrict what may come after. That a
selection ends too early is said of tokens that nothing follows, and that an update
or a deletion has no conditions is said of tokens that the word `WHERE` does not
follow.
-/

namespace SqlDialect
namespace Clause

variable {Later : List Token → Prop}

/-! ## Conditions -/

theorem foreseeable_condition :
    Foreseeable Later Anything condition := by
  have operand : (Token.ident "x").operand? = some (.field "x") := by decide
  have comparison : Token.equal.comparison? = some .equal := by decide
  refine .bind (.expect operand _) fun left => ?_
  refine .bind (.expect comparison _) fun sign => ?_
  exact .bind (.expect operand _) fun right => .pure _

/-- Conditions go on after AND and end where the tokens end, so that any other token
settles that they are refused. -/
theorem conditionSeries_decides : conditionSeries.Decides [] Nothing where
  closes := by
    rintro last rfl
    rfl
  token := by
    intro token
    by_cases isAnd : token = .keyword .AND
    · rw [isAnd]
      exact Or.inl ⟨.another, fun _ => rfl⟩
    · refine Or.inr ⟨.missingAnd, fun rest => ?_⟩
      change afterCondition (token :: rest) = _
      rw [afterCondition]
      · simp
      · simpa using isAnd

/-- Conditions that can be read as a list are read, since there is at least one of
them. -/
theorem run_conditions_of_series
    {tokens rest : List Token}
    {read : List Condition}
    (seriesRead : conditionSeries.clause.run tokens = .ok (read, rest)) :
    conditions.run tokens = .ok (read, rest) := by
  cases tokens with
  | nil =>
      have failed : conditionSeries.clause.run [] = .error .missingLeftOperand :=
        Series.read_of_item_error rfl
      rw [failed] at seriesRead
      cases seriesRead
  | cons token tokens => exact seriesRead

/-- Conditions can be completed, or a fault of them is settled. -/
theorem foreseeable_conditions : Foreseeable Later Nothing conditions := by
  have series : Foreseeable Later Nothing conditionSeries.clause :=
    .series conditionSeries_decides (foreseeable_condition.mono fun _ _ => trivial)
  have completable : ∃ missing value, ∀ last, Nothing last →
      conditions.run (missing ++ last) = .ok (value, last) := by
    obtain ⟨missing, value, reads⟩ := series.completable
    exact ⟨missing, value, fun last isLast =>
      run_conditions_of_series (reads last isLast)⟩
  refine ⟨completable, fun tokens => ?_⟩
  cases tokens with
  | nil => exact .nil completable
  | cons token tokens =>
      exact (series.prospect (token :: tokens)).of_run_eq fun _ =>
        run_conditions_cons _ _

theorem foreseeable_whereClause : Foreseeable Later Nothing whereClause :=
  .bind (.skip _ _) fun _ => foreseeable_conditions

/-- Without any tokens conditions may be left out, and tokens that are there decide as for
conditions that may not. -/
theorem foreseeable_optionalWhereClause :
    Foreseeable Later Nothing optionalWhereClause := by
  have completable : ∃ missing value, ∀ last, Nothing last →
      optionalWhereClause.run (missing ++ last) = .ok (value, last) := by
    refine ⟨[], [], ?_⟩
    rintro last rfl
    exact run_optionalWhereClause_nil
  refine ⟨completable, fun tokens => ?_⟩
  cases tokens with
  | nil => exact .nil completable
  | cons token tokens =>
      exact (foreseeable_whereClause.prospect (token :: tokens)).of_run_eq fun _ =>
        run_optionalWhereClause_cons _ _

/-! ## Selections -/

/-- The first token after an item settles whether the list goes on, ends at FROM, or is
refused. -/
theorem selectedItemSeries_decides :
    selectedItemSeries.Decides [.keyword .FROM] Anything where
  closes := fun last _ => rfl
  token := by
    intro token
    by_cases isComma : token = .comma
    · rw [isComma]
      exact Or.inl ⟨.another, fun _ => rfl⟩
    · by_cases isFrom : token = .keyword .FROM
      · rw [isFrom]
        exact Or.inl ⟨.finished, fun _ => rfl⟩
      · refine Or.inr ⟨.missingFrom, fun rest => ?_⟩
        change afterSelectedItem (token :: rest) = _
        rw [afterSelectedItem] <;> simp [isComma, isFrom]

/-- What closes the items of a selection is no label of the last one. -/
abbrev BeforeFrom : List Token → Prop :=
  fun rest => ∃ last, Anything last ∧ rest = [.keyword .FROM] ++ last

/-- An asterisk with AS after it is refused, with the same message as soon as anything
follows. -/
theorem prospect_wildcardItem
    (nonempty : ∀ later, Later later → later ≠ [])
    (tokens : List Token) :
    Prospect Later BeforeFrom wildcardItem tokens := by
  cases tokens with
  | nil =>
      refine .pending [] .wildcard ?_
      rintro _ ⟨last, -, rfl⟩
      rfl
  | cons token rest =>
      by_cases isLabel : token = .keyword .AS
      · rw [isLabel]
        refine .refused (.missingLabel wildcardName) fun later isLater => ?_
        change Except.error (labelFault wildcardName (rest ++ later)) = _
        rw [labelFault, if_neg]
        simp [nonempty later isLater]
      · refine .passed .wildcard (token :: rest) fun later => ?_
        exact wildcardItem_of_head?_ne (by simpa using isLabel)

/-- A field is completed by itself, unless AS follows it: then a label is to come, and
what is no label is refused with the same message as soon as anything follows. -/
theorem prospect_fieldItem
    (nonempty : ∀ later, Later later → later ≠ [])
    (name : String)
    (tokens : List Token) :
    Prospect Later BeforeFrom (fieldItem name) tokens := by
  cases tokens with
  | nil =>
      refine .pending [] (.field name none) ?_
      rintro _ ⟨last, -, rfl⟩
      rfl
  | cons token rest =>
      by_cases isLabel : token = .keyword .AS
      · rw [isLabel]
        have isFault {later : List Token} (isLater : Later later) :
            labelFault name (rest ++ later) = .missingLabel name := by
          rw [labelFault, if_neg]
          simp [nonempty later isLater]
        by_cases isWildcard : name = wildcardName
        · refine .refused (.missingLabel name) fun later isLater => ?_
          change fieldItem name (.keyword .AS :: (rest ++ later)) = _
          rw [fieldItem, if_pos isWildcard, isFault isLater]
        · cases rest with
          | nil =>
              refine .pending [.ident "x"] (.field name (some "x")) fun last _ => ?_
              exact fieldItem_label isWildcard (by decide) last
          | cons label rest =>
              cases meaning : label.field? with
              | some word =>
                  refine .passed (.field name (some word)) rest fun later => ?_
                  exact fieldItem_label isWildcard meaning _
              | none =>
                  refine .refused (.missingLabel name) fun later isLater => ?_
                  change fieldItem name (.keyword .AS :: (label :: rest ++ later)) = _
                  rw [fieldItem, if_neg isWildcard, isFault isLater]
                  simp [expect, meaning]
      · refine .passed (.field name none) (token :: rest) fun later => ?_
        exact fieldItem_of_head?_ne (by simpa using isLabel) name

/-- An item is settled by its first token and by what belongs to its label. -/
theorem foreseeable_selectedItem
    (nonempty : ∀ later, Later later → later ≠ []) :
    Foreseeable Later BeforeFrom selectedItem := by
  have completable : ∃ missing value, ∀ last, BeforeFrom last →
      selectedItem.run (missing ++ last) = .ok (value, last) := by
    refine ⟨[.asterisk], .wildcard, ?_⟩
    rintro _ ⟨last, -, rfl⟩
    rfl
  refine ⟨completable, fun tokens => ?_⟩
  cases tokens with
  | nil => exact .nil completable
  | cons first rest =>
      by_cases isWildcard : first = .asterisk
      · rw [isWildcard]
        exact (prospect_wildcardItem nonempty rest).of_run_eq fun _ => rfl
      · cases meaning : first.field? with
        | some name =>
            exact (prospect_fieldItem nonempty name rest).of_run_eq fun _ =>
              selectedItem_of_field? meaning _
        | none =>
            refine .refused .missingSelectedField fun later _ => ?_
            change selectedItem (first :: (rest ++ later)) = _
            rw [selectedItem]
            · simp [meaning]
            · simpa using isWildcard

theorem foreseeable_table : Foreseeable Later Anything table := by
  have value : (Token.literal "x").value? = some "x" := rfl
  exact .expect value _

/-- A selection is foreseeable if only tokens that are followed by others are asked about.
Without any after it AS is reported as the absence of a table. -/
theorem foreseeable_selection
    (nonempty : ∀ later, Later later → later ≠ []) :
    Foreseeable Later Nothing selection := by
  have items : Foreseeable Later Anything selectedItemSeries.clause :=
    .series selectedItemSeries_decides (foreseeable_selectedItem nonempty)
  refine .bind items fun items => .bind foreseeable_table fun table => ?_
  exact foreseeable_optionalWhereClause.bind_pure _

/-! ## Updates and deletions -/

/-- An assignment is read from three tokens, each of which is settled by itself. -/
theorem foreseeable_assignment :
    Foreseeable Later Anything assignment := by
  have field : (Token.ident "x").field? = some "x" := by decide
  have value : (Token.literal "x").value? = some "x" := rfl
  refine .bind (.expect field _) fun field => .bind (.skip _ _) fun _ => ?_
  exact .bind (.expect value _) fun value => .pure _

theorem assignmentSeries_decides :
    assignmentSeries.Decides [.keyword .WHERE] Anything where
  closes := fun last _ => rfl
  token := by
    intro token
    by_cases isComma : token = .comma
    · rw [isComma]
      exact Or.inl ⟨.another, fun _ => rfl⟩
    · by_cases isWhere : token = .keyword .WHERE
      · rw [isWhere]
        exact Or.inl ⟨.finished, fun _ => rfl⟩
      · refine Or.inr ⟨.missingAssignmentComma, fun rest => ?_⟩
        change afterAssignment (token :: rest) = _
        rw [afterAssignment] <;> simp [isComma, isWhere]

/-- A clause that reads the word `WHERE` itself is foreseeable also where that word
is looked for first, as long as the word comes among the tokens after. -/
theorem Foreseeable.demandWhere_bind
    {Last : List Token → Prop}
    {clause : Clause α}
    (hasWhere : ∀ later, Later later → .keyword .WHERE ∈ later)
    (foreseen : Foreseeable Later Last clause)
    (needsWhere : ∀ {tokens value rest},
      clause.run tokens = .ok (value, rest) → .keyword .WHERE ∈ tokens) :
    Foreseeable Later Last (demandWhere >>= fun _ => clause) := by
  have run_of_mem {tokens : List Token} (isThere : .keyword .WHERE ∈ tokens) :
      (demandWhere >>= fun _ => clause).run tokens = clause.run tokens := by
    rw [run_demandWhere_bind, if_pos isThere]
  constructor
  · obtain ⟨missing, value, reads⟩ := foreseen.completable
    refine ⟨missing, value, fun last isLast => ?_⟩
    rw [run_of_mem (needsWhere (reads last isLast))]
    exact reads last isLast
  · intro tokens
    cases foreseen.prospect tokens with
    | passed value rest reads =>
        refine .passed value rest fun later => ?_
        rw [run_of_mem (needsWhere (reads later))]
        exact reads later
    | refused fault fails =>
        refine .refused fault fun later isLater => ?_
        rw [run_of_mem (List.mem_append_right tokens (hasWhere later isLater))]
        exact fails later isLater
    | pending missing value reads =>
        refine .pending missing value fun last isLast => ?_
        rw [run_of_mem (needsWhere (reads last isLast))]
        exact reads last isLast

/-- An update is foreseeable if only tokens after which WHERE comes are asked about, since
that word is looked for before anything else is read. -/
theorem foreseeable_update
    (hasWhere : ∀ later, Later later → .keyword .WHERE ∈ later) :
    Foreseeable Later Nothing update := by
  refine .bind foreseeable_table fun table => .demandWhere_bind hasWhere ?_ ?_
  · refine .bind (.skip _ _) fun _ => ?_
    refine .bind (.series assignmentSeries_decides ?_) fun assignments => ?_
    · exact foreseeable_assignment.mono fun _ _ => trivial
    · exact foreseeable_conditions.bind_pure _
  · intro tokens read rest reads
    simp only [run_bind_eq_ok_iff, Unique.exists_iff, PUnit.default_eq_unit,
      run_skip_eq_ok_iff] at reads
    obtain ⟨afterSet, rfl, written, afterWritten, writtenRead, -⟩ := reads
    obtain ⟨assignmentTokens, last, rfl, -, finished⟩ :=
      assignmentSeries_follows.read_eq_ok_iff.mp writtenRead
    rw [run_afterAssignment_finished.mp finished]
    simp

theorem foreseeable_deletion
    (hasWhere : ∀ later, Later later → .keyword .WHERE ∈ later) :
    Foreseeable Later Nothing deletion := by
  refine .bind foreseeable_table fun table => .demandWhere_bind hasWhere ?_ ?_
  · exact foreseeable_whereClause.bind_pure _
  · intro tokens read rest reads
    simp only [run_bind_eq_ok_iff, run_whereClause_eq_ok_iff] at reads
    obtain ⟨conditions, _, ⟨conditionTokens, rfl, -⟩, -⟩ := reads
    exact List.mem_cons_self

end Clause

namespace Statement

/-- Whether some tokens can go on to be a statement. -/
def Completable (tokens : List Token) : Prop :=
  ∃ later statement, ofTokens (tokens ++ later) = .ok statement

/-- Whether it is settled why some tokens are no statement: there is one fault, with
everything in `Later` after them. -/
def Settled (Later : List Token → Prop) (tokens : List Token) : Prop :=
  ∃ fault, ∀ later, Later later → ofTokens (tokens ++ later) = .error fault

/-- What a clause that has to come last decides is decided of the whole statement,
after the words that it begins with. -/
theorem completable_or_settled_of_prospect
    {Later : List Token → Prop}
    {clause : Clause Statement}
    {opening rest : List Token}
    (opens : ∀ tokens, Clause.statement.run (opening ++ tokens) = clause.run tokens)
    (prospect : Clause.Prospect Later Clause.Nothing clause rest) :
    Completable (opening ++ rest) ∨ Settled Later (opening ++ rest) := by
  have ofRun (later : List Token) :
      ofTokens (opening ++ rest ++ later) =
        (clause.run (rest ++ later)).map Prod.fst := by
    rw [ofTokens, List.append_assoc, opens]
  cases prospect with
  | passed statement after reads =>
      refine Or.inl ⟨[], statement, ?_⟩
      rw [ofRun, reads]
      rfl
  | refused fault fails =>
      refine Or.inr ⟨fault, fun later isLater => ?_⟩
      rw [ofRun, fails later isLater]
      rfl
  | pending missing statement reads =>
      refine Or.inl ⟨missing, statement, ?_⟩
      have whole := reads [] rfl
      rw [List.append_nil] at whole
      rw [ofRun, whole]
      rfl

/-- The front of a selection can still become a statement, or has one fault whatever
follows it, as long as something does. The front of an update or of a deletion can
still become a statement, or has one fault whatever follows it, as long as the word
`WHERE` is there. -/
theorem completable_or_settled :
    (∀ tokens,
      Completable (.keyword .SELECT :: tokens) ∨
        Settled (fun later => later ≠ []) (.keyword .SELECT :: tokens)) ∧
      (∀ tokens,
        Completable (.keyword .UPDATE :: tokens) ∨
          Settled (fun later => .keyword .WHERE ∈ later)
            (.keyword .UPDATE :: tokens)) ∧
      ∀ tokens,
        Completable (.keyword .DELETE :: tokens) ∨
          Settled (fun later => .keyword .WHERE ∈ later)
            (.keyword .DELETE :: tokens) := by
  refine ⟨fun tokens => ?_, fun tokens => ?_, fun tokens => ?_⟩
  · have selection := Clause.foreseeable_selection fun later nonempty => nonempty
    have opens (rest : List Token) :
        Clause.statement.run ([.keyword .SELECT] ++ rest) = Clause.selection.run rest :=
      rfl
    exact completable_or_settled_of_prospect opens (selection.prospect tokens)
  · have update := Clause.foreseeable_update fun later hasWhere => hasWhere
    have opens (rest : List Token) :
        Clause.statement.run ([.keyword .UPDATE] ++ rest) = Clause.update.run rest :=
      rfl
    exact completable_or_settled_of_prospect opens (update.prospect tokens)
  · have deletion := Clause.foreseeable_deletion fun later hasWhere => hasWhere
    have opens (rest : List Token) :
        Clause.statement.run ([.keyword .DELETE, .keyword .FROM] ++ rest) =
          Clause.deletion.run rest := rfl
    -- A deletion begins with two words, of which the second one may be still to come.
    cases tokens with
    | nil =>
        obtain ⟨missing, statement, reads⟩ := deletion.completable
        refine Or.inl ⟨.keyword .FROM :: missing, statement, ?_⟩
        have whole := reads [] rfl
        rw [List.append_nil] at whole
        change (Clause.deletion.run missing).map Prod.fst = _
        rw [whole]
        rfl
    | cons token rest =>
        by_cases isFrom : token = .keyword .FROM
        · rw [isFrom]
          exact completable_or_settled_of_prospect opens (deletion.prospect rest)
        · refine Or.inr ⟨.unknownStatement, fun later _ => ?_⟩
          change (Clause.statement (.keyword .DELETE :: token :: (rest ++ later))).map
            Prod.fst = _
          rw [Clause.statement] <;> simp [Except.map, isFrom]

/-- A label of the wildcard is settled to be wrong as soon as anything follows the
word for it, but until then it is the table that is missing. -/
theorem completable_or_settled_labelledWildcard :
    (Completable [.keyword .SELECT, .asterisk, .keyword .AS] ∨
        Settled (fun later => later ≠ [])
          [.keyword .SELECT, .asterisk, .keyword .AS]) ∧
      ofTokens [.keyword .SELECT, .asterisk, .keyword .AS] =
        .error .missingTable ∧
      ofTokens [.keyword .SELECT, .asterisk, .keyword .AS, .comma] =
        .error (.missingLabel "*") := by
  refine ⟨completable_or_settled.1 [.asterisk, .keyword .AS], ?_, ?_⟩
  · decide +kernel
  · decide +kernel

end Statement

end SqlDialect
