import SqlDialect.Proofs.Faults.Unfinished
import SqlDialect.Proofs.Positions.Trail
import SqlDialect.Statement.Reading

/-!
# Walks along the parts of a statement

Every part of a walk along a statement reads what the clause for it does. A loop adds to
a statement what it reads, item by item, so it reads the list of the items and then adds
them all (`Clause.Series.collected`). The values of a row are no such list, since the end
of the tokens may cut them off; their loop is followed directly.
-/

namespace SqlDialect

/-! ## Lists -/

namespace Clause.Series

/-- One more item of a list, added to what is there, and whether another one follows. -/
def round
    (series : Series β)
    (collect : σ → β → σ)
    (state : σ) : Clause (σ ⊕ σ) := do
  let value ← series.item
  match ← series.following with
  | .another => return .inl (collect state value)
  | .finished => return .inr (collect state value)

/-- All items of a list, added to what is there. -/
def collected
    (series : Series β)
    (collect : σ → β → σ)
    (state : σ) : Clause σ := do
  return (← series.clause).foldl collect state

/-- Collecting a list is a round of it, and the rest of the list if another item follows.
The kind of the list may depend on what is there, but not on what is added. -/
theorem collected_eq
    {series : σ → Series β}
    {collect : σ → β → σ}
    (steady : ∀ state value, series (collect state value) = series state)
    (state : σ) :
    (series state).collected collect state =
      (series state).round collect state >>=
        Sum.elim (fun later => (series later).collected collect later) pure := by
  have whole : (series state).clause =
      (series state).item >>= fun value =>
        (series state).following >>= (series state).continued value :=
    funext (series state).run_clause
  rw [collected, whole, round]
  simp only [bind_assoc]
  refine bind_congr fun value => bind_congr fun following => ?_
  cases following with
  | another =>
      simp only [continued, bind_assoc, pure_bind, Sum.elim_inl, steady]
      rfl
  | finished => simp only [continued, pure_bind, List.foldl_cons, List.foldl_nil, Sum.elim_inr]

/-- A round after which another one follows has read at least one token. -/
theorem length_lt_of_round
    {series : Series β}
    {collect : σ → β → σ}
    {state later : σ}
    {ahead rest : List Token}
    (another : (series.round collect state).run ahead = .ok (.inl later, rest)) :
    rest.length < ahead.length := by
  obtain ⟨value, afterItem, itemRead, continues⟩ := run_bind_eq_ok_iff.mp another
  obtain ⟨following, _, followed, continues⟩ := run_bind_eq_ok_iff.mp continues
  cases following with
  | another =>
      obtain ⟨-, rfl⟩ := run_pure_eq_ok_iff.mp continues
      exact series.advances itemRead followed
  | finished => cases (run_pure_eq_ok_iff.mp continues).1

end Clause.Series

namespace Walk

/-- A loop whose rounds read items of a list reads the list. -/
theorem Tracks.loop_series
    {series : σ → Clause.Series β}
    {collect : σ → β → σ}
    {body : σ → Walk (σ ⊕ σ)}
    (tracks : ∀ state, (body state).Tracks ((series state).round collect state))
    (steady : ∀ state value, series (collect state value) = series state)
    (name : WalkLoop)
    (state : σ) :
    (Walk.loop name body state).Tracks ((series state).collected collect state) :=
  .loop tracks Clause.Series.length_lt_of_round (Clause.Series.collected_eq steady) name state

/-! ## Conditions -/

theorem tracks_condition : condition.Tracks Clause.condition :=
  (finds_nextOperand.demand _).bind fun _ =>
    ((finds_nextMeaning _).demand _).bind fun _ =>
      (finds_nextOperand.demand _).bind fun _ => .pure _

/-- A round of the loop over conditions reads a condition and the AND after it, or the
end. -/
theorem tracks_conditionRound (found : List Condition) :
    (conditionRound found).Tracks
      (Clause.conditionSeries.round (fun found condition => found ++ [condition]) found) := by
  refine tracks_condition.bind fun condition => .next (.pure _ _) fun token rest => ?_
  cases token with
  | keyword reserved => cases reserved <;> first | exact .pure _ _ | exact .refuse _ _
  | _ => exact .refuse _ _

/-- The loop over conditions reads the list of them, and refuses the end of the tokens
before it begins. -/
theorem tracks_conditions : conditions.Tracks Clause.conditions := by
  have all (found : List Condition) :
      found.foldl (fun found condition => found ++ [condition]) [] = found := by
    rw [List.foldl_append_eq_append, List.nil_append, ← List.flatMap_def,
      List.flatMap_singleton']
  have list := Tracks.loop_series tracks_conditionRound (fun _ _ => rfl) .conditions []
  simp only [Clause.Series.collected, all, bind_pure] at list
  intro ahead
  cases ahead with
  | nil => exact (Reads.demandMore_nil _).bind_of_error
  | cons token rest => exact (Reads.demandMore_cons _ token rest).bind (list _)

theorem tracks_whereClause : whereClause.Tracks Clause.whereClause :=
  (tracks_demandNext _ _).bind fun _ => tracks_conditions

/-- Looking ahead for WHERE stays within the tokens and does not move the walk. -/
theorem tracks_demandWhere : demandWhere.Tracks Clause.demandWhere := by
  intro ahead
  refine (Reads.lookAhead ahead).bind ?_
  rw [Clause.run_demandWhere]
  split
  · exact .pure () ahead
  · exact .refuse _ ahead

/-! ## Selections -/

theorem tracks_table : table.Tracks Clause.table :=
  (finds_nextMeaning _).demand _

/-- A label is read after the word `AS`, but the wildcard is refused one. -/
theorem reads_selectedLabel (name : String) (ahead : List Token) :
    (selectedLabel name).Reads ahead
      (if name = wildcardName then .error (Clause.labelFault name ahead)
        else Clause.expect Token.field? (Clause.labelFault name ahead) ahead) := by
  cases ahead with
  | nil =>
      have refused : (if name = wildcardName then .error (Clause.labelFault name [])
          else Clause.expect Token.field? (Clause.labelFault name []) []) =
            .error .missingTable := by
        split <;> rfl
      rw [refused]
      exact (Reads.demandMore_nil _).bind_of_error
  | cons token rest =>
      refine (Reads.demandMore_cons _ token rest).bind ?_
      have label :=
        (finds_nextMeaning Token.field?).demand (.missingLabel name) (token :: rest)
      change Reads _ _ (if name = wildcardName then .error (.missingLabel name)
        else (Clause.expect Token.field? (.missingLabel name)).run (token :: rest))
      cases labelRun :
          (Clause.expect Token.field? (.missingLabel name)).run (token :: rest) with
      | error fault =>
          rw [labelRun] at label
          obtain ⟨rfl, -⟩ := Clause.run_expect_eq_error_iff.mp labelRun
          rw [ite_self]
          exact label.bind_of_error
      | ok read =>
          rw [labelRun] at label
          refine label.bind ?_
          split
          · exact .refuse _ _
          · exact .pure _ _

/-- After AS the label is read, except for a name that is the wildcard's, for which none
may be given. -/
theorem reads_labelSelected_self
    (statement : Statement)
    (name : String)
    (rest : List Token) :
    (labelSelected statement name).Reads (.keyword .AS :: rest)
      ((if name = wildcardName then .error (Clause.labelFault name rest)
        else Clause.expect Token.field? (Clause.labelFault name rest) rest).map fun read =>
          ({ statement with labels := statement.labels.insert name read.1 }, read.2)) :=
  (Reads.nextIs_self _ rest).bind ((reads_selectedLabel name rest).map _)

theorem reads_labelSelected_of_ne
    {ahead : List Token}
    (other : ahead.head? ≠ some (.keyword .AS))
    (statement : Statement)
    (name : String) :
    (labelSelected statement name).Reads ahead (.ok (statement, ahead)) :=
  (Reads.nextIs_of_ne other).bind (.pure statement ahead)

theorem head?_ne_of_forall
    {expected : Token}
    {ahead : List Token}
    (other : ∀ rest, ahead = expected :: rest → False) :
    ahead.head? ≠ some expected := by
  intro isHead
  obtain ⟨rest, whole⟩ := List.head?_eq_some_iff.mp isHead
  exact other rest whole

/-- Add a selected item to a statement. -/
def collectSelected (statement : Statement) : Clause.SelectedItem → Statement
  | .wildcard => { statement with fields := statement.fields ++ [wildcardName] }
  | .field name none => { statement with fields := statement.fields ++ [name] }
  | .field name (some label) =>
      { statement with
        labels := statement.labels.insert name label
        fields := statement.fields ++ [name] }

/-- An item is read from the position as from the tokens ahead, and is added to the
statement at once. -/
theorem reads_selectedItem (statement : Statement) (ahead : List Token) :
    (selectedItem statement).Reads ahead
      ((Clause.selectedItem ahead).map fun read =>
        (collectSelected statement read.1, read.2)) := by
  -- No token is ahead, an asterisk, a name, or a token that is neither.
  fun_cases Clause.selectedItem ahead with
  | case1 => exact (Reads.demandMore_nil _).bind_of_error
  | case2 rest =>
      refine (Reads.demandMore_cons _ _ rest).bind ?_
      refine ((Reads.nextIs_self _ rest).bind (.pure wildcardName rest)).bind ?_
      fun_cases Clause.wildcardItem rest with
      | case1 after =>
          exact (reads_labelSelected_self statement wildcardName after).bind_of_error
      | case2 _ noLabel =>
          exact (reads_labelSelected_of_ne (head?_ne_of_forall noLabel) statement _).bind
            (.pure _ _)
  | case3 first rest notAsterisk name isField =>
      refine (Reads.demandMore_cons _ _ rest).bind ?_
      have named : selectedName.Reads (first :: rest) (.ok (name, rest)) := by
        refine (Reads.nextIs_of_ne fun isAsterisk => ?_).bind
          (((finds_nextMeaning _).something isField rest).bind (.pure _ rest))
        exact notAsterisk (Option.some.inj isAsterisk)
      refine named.bind ?_
      fun_cases Clause.fieldItem name rest with
      | case1 after isWildcard =>
          have refused := reads_labelSelected_self statement name after
          rw [if_pos isWildcard] at refused
          exact refused.bind_of_error
      | case2 after notWildcard label rest labelRead =>
          have labelled := reads_labelSelected_self statement name after
          rw [if_neg notWildcard, labelRead] at labelled
          exact labelled.bind (.pure _ rest)
      | case3 after notWildcard fault labelFailed =>
          have refused := reads_labelSelected_self statement name after
          rw [if_neg notWildcard, labelFailed] at refused
          exact refused.bind_of_error
      | case4 _ noLabel =>
          exact (reads_labelSelected_of_ne (head?_ne_of_forall noLabel) statement name).bind
            (.pure _ _)
  | case4 first rest notAsterisk noField =>
      refine (Reads.demandMore_cons _ _ rest).bind (Reads.bind_of_error ?_)
      refine (Reads.nextIs_of_ne fun isAsterisk => ?_).bind
        (((finds_nextMeaning _).nothing ?_).bind (.refuse _ _))
      · exact notAsterisk (Option.some.inj isAsterisk)
      · rintro _ ⟨⟩
        exact noField

theorem tracks_selectedItem (statement : Statement) :
    (selectedItem statement).Tracks (collectSelected statement <$> Clause.selectedItem) := by
  intro ahead
  rw [StateT.run_map]
  exact reads_selectedItem statement ahead

/-- A round of the loop over items reads an item and what follows it, a comma or FROM. -/
theorem tracks_selectedItemRound (statement : Statement) :
    (selectedItemRound statement).Tracks
      (Clause.selectedItemSeries.round collectSelected statement) := by
  have split : Clause.selectedItemSeries.round collectSelected statement =
      collectSelected statement <$> Clause.selectedItem >>= fun extended => do
        match ← Clause.afterSelectedItem with
        | .another => return .inl extended
        | .finished => return .inr extended := by
    rw [bind_map_left]
    rfl
  rw [split]
  refine (tracks_selectedItem statement).bind fun extended =>
    .next (.refuse _ _) fun token rest => ?_
  cases token with
  | keyword reserved => cases reserved <;> first | exact .pure _ _ | exact .refuse _ _
  | _ => first | exact .pure _ _ | exact .refuse _ _

/-- Adding selected items one by one is adding their names and labels. -/
theorem foldl_collectSelected
    (statement : Statement)
    (items : List Clause.SelectedItem) :
    items.foldl collectSelected statement =
      { statement with
        fields := statement.fields ++ items.map Clause.SelectedItem.name
        labels := (items.filterMap Clause.SelectedItem.labelling?).foldl
          (fun map pair => map.insert pair.1 pair.2) statement.labels } := by
  induction items generalizing statement with
  | nil => simp
  | cons item items inductionHypothesis =>
      rw [List.foldl_cons, inductionHypothesis]
      cases item with
      | wildcard =>
          simp [collectSelected, Clause.SelectedItem.name, Clause.SelectedItem.labelling?,
            List.filterMap_cons]
      | field name label? =>
          cases label? <;>
            simp [collectSelected, Clause.SelectedItem.name, Clause.SelectedItem.labelling?,
              List.filterMap_cons]

/-- What follows the table of a selection, whose items have been added to a statement. -/
def selectionRest (statement : Statement) (table : String) : Clause Statement
  | [] => .ok ({ statement with table := table }, [])
  | token :: rest =>
      ((fun conditions => { statement with table := table, conditions := conditions }) <$>
        Clause.whereClause).run (token :: rest)

/-- Adding the items to a statement one by one as they are read comes to the same as
reading the list first. -/
theorem selection_eq :
    Clause.selection =
      Clause.selectedItemSeries.collected collectSelected (.ofTable .select "") >>=
        fun statement => Clause.table >>= selectionRest statement := by
  rw [Clause.selection, Clause.Series.collected, bind_assoc]
  refine bind_congr fun items => ?_
  rw [pure_bind, foldl_collectSelected]
  refine bind_congr fun table => funext fun ahead => ?_
  cases ahead with
  | nil => rfl
  | cons token rest =>
      rw [selectionRest, map_eq_pure_bind]
      rfl

theorem tracks_selection : selection.Tracks Clause.selection := by
  rw [selection_eq]
  refine (Tracks.loop_series tracks_selectedItemRound (fun _ _ => rfl) _ _).bind
    fun statement => tracks_table.bind fun table ahead => ?_
  cases ahead with
  | nil => exact (Reads.peek []).bind (.pure _ [])
  | cons token rest =>
      refine (Reads.peek (token :: rest)).bind ?_
      change Reads _ _ (StateT.run (_ <$> Clause.whereClause) _)
      rw [StateT.run_map]
      exact (tracks_whereClause (token :: rest)).map _

/-! ## Updates and deletions -/

/-- Add an assignment to a statement. -/
def collectAssignment (statement : Statement) (assignment : String × String) : Statement :=
  statement.assign assignment.1 assignment.2

theorem tracks_assignmentRound (statement : Statement) :
    (assignmentRound statement).Tracks
      (Clause.assignmentSeries.round collectAssignment statement) := by
  have split : Clause.assignmentSeries.round collectAssignment statement =
        Clause.expect Token.field? .missingAssignedField >>= fun field =>
          Clause.skip .equal .missingAssignmentSign >>= fun _ =>
            Clause.expect Token.value? .missingAssignedValue >>= fun value => do
              match ← Clause.afterAssignment with
              | .another => return .inl (statement.assign field value)
              | .finished => return .inr (statement.assign field value) := by
    change Clause.assignment >>= _ = _
    rw [Clause.assignment]
    simp only [bind_assoc, pure_bind]
    rfl
  rw [split]
  refine ((finds_nextMeaning _).demand _).bind fun field =>
    (tracks_demandNext _ _).bind fun _ =>
      ((finds_nextMeaning _).demand _).bind fun value =>
        .next (.refuse _ _) fun token rest => ?_
  cases token with
  | keyword reserved => cases reserved <;> first | exact .pure _ _ | exact .refuse _ _
  | _ => first | exact .pure _ _ | exact .refuse _ _

/-- Assignments that are added one by one change the assignments of the statement
alone. -/
theorem foldl_collectAssignment
    (statement : Statement)
    (assignments : List (String × String)) :
    assignments.foldl collectAssignment statement =
      { statement with
        assignments := assignments.foldl
          (fun collected assignment => setAssignment assignment.1 assignment.2 collected)
          statement.assignments } := by
  induction assignments generalizing statement with
  | nil => rfl
  | cons assignment assignments inductionHypothesis =>
      rw [List.foldl_cons, inductionHypothesis]
      rfl

/-- The walk along an update comes to the update that is read, with its assignments added
one by one. -/
theorem tracks_update : update.Tracks Clause.update := by
  have whole : Clause.update =
      Clause.table >>= fun table => Clause.demandWhere >>= fun _ =>
        Clause.skip (.keyword .SET) .missingSet >>= fun _ =>
          Clause.assignmentSeries.collected collectAssignment (.ofTable .update table) >>=
            fun statement => Clause.conditions >>= fun conditions =>
              pure { statement with conditions := conditions } := by
    simp only [Clause.update, Clause.Series.collected, bind_assoc, pure_bind,
      foldl_collectAssignment]
    rfl
  rw [whole]
  exact tracks_table.bind fun table => tracks_demandWhere.bind fun _ =>
    (tracks_demandNext _ _).bind fun _ =>
      (Tracks.loop_series tracks_assignmentRound (fun _ _ => rfl) _ _).bind fun statement =>
        tracks_conditions.bind fun conditions => .pure _

theorem tracks_deletion : deletion.Tracks Clause.deletion :=
  tracks_table.bind fun _ => tracks_demandWhere.bind fun _ =>
    tracks_whereClause.bind fun _ => .pure _

/-! ## Insertions -/

/-- Looking ahead for an asterisk stays within the tokens and does not move the walk. -/
theorem tracks_refuseWildcard : refuseWildcard.Tracks Clause.refuseWildcard := by
  intro ahead
  refine (Reads.lookAhead ahead).bind ?_
  rw [Clause.run_refuseWildcard]
  split
  · exact .refuse _ ahead
  · exact .pure () ahead

/-- Add a field to a statement. -/
def collectField (statement : Statement) (field : String) : Statement :=
  { statement with fields := statement.fields ++ [field] }

theorem tracks_insertedFieldRound (statement : Statement) :
    (insertedFieldRound statement).Tracks
      (Clause.insertedFieldSeries.round collectField statement) := by
  refine ((finds_nextMeaning _).demand _).bind fun field =>
    .next (.refuse _ _) fun token rest => ?_
  cases token <;> first | exact .pure _ _ | exact .refuse _ _

/-- Fields that are added one by one come after those that are there, in order. -/
theorem foldl_collectField
    (statement : Statement)
    (fields : List String) :
    fields.foldl collectField statement =
      { statement with fields := statement.fields ++ fields } := by
  induction fields generalizing statement with
  | nil => simp
  | cons field fields inductionHypothesis =>
      rw [List.foldl_cons, inductionHypothesis, collectField, List.append_assoc]
      rfl

/-- One more value of a row, and whether another one follows. -/
def rowValueStep (values : List String) :
    Clause (List String ⊕ (List String × Bool))
  | [] => .ok (.inr (values, false), [])
  | .closeParen :: rest =>
      if values.isEmpty then .ok (.inr (values, true), rest) else .error .missingRowValue
  | [.literal value] => .ok (.inr (values ++ [value], false), [])
  | .literal value :: .closeParen :: rest => .ok (.inr (values ++ [value], true), rest)
  | .literal value :: .comma :: rest => .ok (.inl (values ++ [value]), rest)
  | .literal _ :: _ :: _ => .error .missingValueComma
  | _ :: _ => .error .missingRowValue

/-- A round of the loop over the values of a row reads a value and what follows it, or
finds the row closed or cut off. -/
theorem tracks_rowValueRound (values : List String) :
    (rowValueRound values).Tracks (rowValueStep values) := by
  refine .next (.pure _ []) fun token rest => ?_
  cases token with
  | literal value =>
      cases rest with
      | nil => exact Reads.next_nil.bind (.pure _ [])
      | cons following rest =>
          refine (Reads.next_cons following rest).bind ?_
          cases following <;> first | exact .pure _ rest | exact .refuse _ rest
  | closeParen =>
      change Reads _ rest (if values.isEmpty then _ else _)
      cases values with
      | nil => exact .pure _ rest
      | cons value values => exact .refuse _ rest
  | _ => exact .refuse _ rest

/-- Values after some values of a row, and whether the row is closed. -/
def extendRow (values : List String) :
    List String × Option (List Token) → (List String × Bool) × List Token
  | (others, some rest) => ((values ++ others, true), rest)
  | (others, none) => ((values ++ others, false), [])

/-- The rest of a row after some values. Only the first value may be left out. -/
def rowValuesAfter (values : List String) : Clause (List String × Bool) := fun ahead =>
  (if values.isEmpty then Clause.rowBody ahead else Clause.rowValues ahead).map
    (extendRow values)

/-- Where the row is not closed at once its values are read as a list of at least one. -/
theorem rowValuesAfter_of_head?_ne
    {ahead : List Token}
    (notClosed : ahead.head? ≠ some .closeParen)
    (values : List String) :
    rowValuesAfter values ahead = (Clause.rowValues ahead).map (extendRow values) := by
  rw [rowValuesAfter, Clause.rowBody_of_head?_ne notClosed, ite_self]

/-- The rest of a row is one more value, and then what follows if another one comes. -/
theorem rowValuesAfter_eq (values : List String) :
    rowValuesAfter values = rowValueStep values >>= Sum.elim rowValuesAfter pure := by
  funext ahead
  cases ahead with
  | nil =>
      rw [rowValuesAfter_of_head?_ne (by simp)]
      change Except.ok ((values ++ [], false), []) = .ok ((values, false), [])
      rw [List.append_nil]
  | cons token rest =>
      cases token with
      | closeParen => cases values <;> rfl
      | literal value =>
          rw [rowValuesAfter_of_head?_ne (by simp)]
          cases rest with
          | nil => rfl
          | cons following rest =>
              cases following with
              | comma =>
                  -- After a value the row may no longer be closed without another one.
                  have notEmpty : ¬(values ++ [value]).isEmpty = true := by simp
                  change _ = rowValuesAfter (values ++ [value]) rest
                  rw [rowValuesAfter, if_neg notEmpty, Clause.rowValues]
                  rcases Clause.rowValues rest with fault | ⟨others, _ | after⟩
                  · rfl
                  · simp [Except.map, extendRow]
                  · simp [Except.map, extendRow]
              | _ => rfl
      | _ =>
          rw [rowValuesAfter_of_head?_ne (by simp)]
          rfl

/-- The loop over the values of a row reads what is left of it after the values that are
there. -/
theorem tracks_rowValues (values : List String) :
    (Walk.loop .rowValues rowValueRound values).Tracks (rowValuesAfter values) := by
  refine .loop tracks_rowValueRound ?_ rowValuesAfter_eq _ values
  intro values ahead later rest another
  revert another
  change rowValueStep values ahead = _ → _
  fun_cases rowValueStep values ahead <;> grind

/-- A row is opened, read up to where it is closed or cut off, and refused unless its
values are as many as the fields. -/
theorem tracks_row (width : Nat) : (row width).Tracks (Clause.row width) := by
  intro ahead
  have loopReads := tracks_rowValues [] ahead
  change Reads _ ahead ((Clause.rowBody ahead).map (extendRow [])) at loopReads
  change Reads _ ahead (Clause.row width ahead)
  rw [Clause.row]
  generalize Clause.rowBody ahead = body at loopReads ⊢
  rcases body with fault | ⟨values, _ | rest⟩
  · exact loopReads.bind_of_error
  · refine loopReads.bind ?_
    change Reads (if values.length = width then refuse .missingValueComma
      else refuse .unequalCounts) [] (if values.length = width then _ else _)
    split
    · exact .refuse _ []
    · exact .refuse _ []
  · refine loopReads.bind ?_
    change Reads (if values.length = width then Pure.pure values
      else refuse .unequalCounts) rest (if values.length = width then _ else _)
    split
    · exact .pure values rest
    · exact .refuse _ rest

/-- Add a row to a statement. -/
def collectRow (statement : Statement) (row : List String) : Statement :=
  { statement with rows := statement.rows ++ [row] }

/-- A round of the loop over rows reads a row and what follows it: the opening of another
one, or the end. -/
theorem tracks_rowRound (statement : Statement) :
    (rowRound statement).Tracks
      ((Clause.rowSeries statement.fields.length).round collectRow statement) := by
  refine (tracks_row _).bind fun row => .next (.pure _ _) fun token rest => ?_
  cases token with
  | comma =>
      cases rest with
      | nil => exact (Reads.nextIs_of_ne (by simp)).bind (.refuse _ _)
      | cons following rest =>
          cases following <;>
            first
              | exact (Reads.nextIs_self _ rest).bind (.pure _ rest)
              | exact (Reads.nextIs_of_ne (by simp)).bind (.refuse _ _)
  | _ => exact .refuse _ _

theorem foldl_collectRow
    (statement : Statement)
    (rows : List (List String)) :
    rows.foldl collectRow statement = { statement with rows := statement.rows ++ rows } := by
  induction rows generalizing statement with
  | nil => simp
  | cons row rows inductionHypothesis =>
      rw [List.foldl_cons, inductionHypothesis, collectRow, List.append_assoc]
      rfl

/-- The walk along an insertion comes to the insertion that is read, with fields and rows
added one by one. -/
theorem tracks_insertion : insertion.Tracks Clause.insertion := by
  have whole : Clause.insertion =
      Clause.table >>= fun table => Clause.skip .openParen .missingRows >>= fun _ =>
        Clause.refuseWildcard >>= fun _ =>
          Clause.insertedFieldSeries.collected collectField (.ofTable .insert table) >>=
            fun statement => Clause.skip (.keyword .VALUES) .missingRows >>= fun _ =>
              Clause.skip .openParen .missingRows >>= fun _ =>
                (Clause.rowSeries statement.fields.length).collected collectRow statement := by
    simp only [Clause.insertion, Clause.Series.collected, bind_assoc, pure_bind,
      foldl_collectField, foldl_collectRow]
    rfl
  rw [whole]
  exact tracks_table.bind fun table => (tracks_demandNext _ _).bind fun _ =>
    tracks_refuseWildcard.bind fun _ =>
      (Tracks.loop_series tracks_insertedFieldRound (fun _ _ => rfl) _ _).bind fun statement =>
        (tracks_demandNext _ _).bind fun _ => (tracks_demandNext _ _).bind fun _ =>
          Tracks.loop_series tracks_rowRound (fun _ _ => rfl) _ _

/-! ## Statements -/

/-- A walk that goes on after a keyword reads what is expected after it, or else is
refused. -/
theorem reads_afterKeyword
    {walk : Walk α}
    {second : Keyword}
    {fault : SyntaxFault}
    {ahead : List Token}
    {expected : Except SyntaxFault (α × List Token)}
    (present : ∀ rest, ahead = .keyword second :: rest → walk.Reads rest expected)
    (absent : ahead.head? ≠ some (.keyword second) → expected = .error fault) :
    Reads (do if ← nextIs (.keyword second) then walk else refuse fault) ahead expected := by
  by_cases isSecond : ahead.head? = some (.keyword second)
  · obtain ⟨rest, rfl⟩ := List.head?_eq_some_iff.mp isSecond
    exact (Reads.nextIs_self _ rest).bind (present rest rfl)
  · rw [absent isSecond]
    exact (Reads.nextIs_of_ne isSecond).bind (.refuse fault ahead)

/-- A walk along a statement reads what the clause for statements does. -/
theorem tracks_statement : statement.Tracks Clause.statement := by
  refine .next (.refuse _ _) fun token rest => ?_
  cases token with
  | keyword reserved =>
      cases reserved with
      | SELECT => exact tracks_selection rest
      | UPDATE => exact tracks_update rest
      | DELETE =>
          refine reads_afterKeyword (fun after => ?_) fun absent => ?_
          · rintro rfl
            exact tracks_deletion after
          · change Clause.statement _ = _
            unfold Clause.statement
            split <;> simp_all
      | INSERT =>
          refine reads_afterKeyword (fun after => ?_) fun absent => ?_
          · rintro rfl
            exact tracks_insertion after
          · change Clause.statement _ = _
            unfold Clause.statement
            split <;> simp_all
      | _ => exact .refuse _ _
  | _ => exact .refuse _ _

end Walk

end SqlDialect
