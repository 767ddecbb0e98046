import SqlDialect.Proofs.Faults.Attribution

/-!
# What comes before the rows of an insertion

After its table an insertion has a header, which ends with the parenthesis of the
first row. Two faults belong to the header and to nothing else. A wildcard among the
fields is one of them, and it is found before anything else that may be wrong there;
whatever else is wrong counts as missing rows. With a header that is in order the
fault is one of the rows (`Clause.run_rowsOpening_eq_ok_iff`).
-/

namespace SqlDialect

open Grammar

/-- Whether a wildcard stands after an opening parenthesis and before the first
closing one. -/
def WildcardAmongFields (tokens : List Token) : Prop :=
  ∃ before after,
    tokens = .openParen :: (before ++ .asterisk :: after) ∧ .closeParen ∉ before

/-- Whether tokens begin with names in parentheses, and go on with what opens the
first row. -/
def OpensRows (tokens : List Token) : Prop :=
  ∃ fields fieldTokens rest,
    tokens = .openParen ::
        (fieldTokens ++ .closeParen :: .keyword .VALUES :: .openParen :: rest) ∧
      Separated [.comma] Name fields fieldTokens

/-- Whether some tokens are no statement, and that is said in some words. -/
def TokensFailWith (tokens : List Token) (message : String) : Prop :=
  ∃ fault, Statement.ofTokens tokens = .error fault ∧ fault.message = message

namespace SyntaxFault

/-- The messages about the clause of an insertion tell the fault. -/
theorem message_eq_iff_of_insert
    {known : SyntaxFault}
    (ofInsertion : known.clause? = some .insert)
    (fault : SyntaxFault) :
    fault.message = known.message ↔ fault = known := by
  constructor
  · intro same
    have faultOfInsertion : fault.clause? = some .insert := by
      rw [← isAt_message_iff, same, isAt_message_iff, ofInsertion]
    cases known <;> cases ofInsertion <;> cases fault <;> cases faultOfInsertion <;>
      revert same <;> decide
  · rintro rfl
    rfl

end SyntaxFault

/-- A message about an insertion tells its fault. -/
theorem tokensFailWith_message_iff
    {known : SyntaxFault}
    (ofInsertion : known.clause? = some .insert)
    (tokens : List Token) :
    TokensFailWith tokens known.message ↔
      Statement.ofTokens tokens = .error known := by
  constructor
  · rintro ⟨fault, failed, same⟩
    rw [failed, (SyntaxFault.message_eq_iff_of_insert ofInsertion fault).mp same]
  · intro failed
    exact ⟨known, failed, rfl⟩

namespace Clause

/-- A wildcard is looked for up to the first closing parenthesis, or up to the end. -/
theorem wildcardBeforeClose_eq_true_iff
    {tokens : List Token} :
    wildcardBeforeClose tokens = true ↔
      ∃ before after, tokens = before ++ .asterisk :: after ∧ .closeParen ∉ before := by
  rw [wildcardBeforeClose, decide_eq_true_eq]
  constructor
  · intro member
    obtain ⟨before, after, split⟩ := List.append_of_mem member
    refine ⟨before, after ++ tokens.dropWhile fun token => token ≠ .closeParen, ?_, ?_⟩
    · rw [← List.cons_append, ← List.append_assoc, ← split,
        List.takeWhile_append_dropWhile]
    · intro closes
      have taken : Token.closeParen ∈
          tokens.takeWhile fun token => token ≠ .closeParen := by
        rw [split]
        exact List.mem_append_left _ closes
      simpa using List.mem_takeWhile_imp taken
  · rintro ⟨before, after, rfl, noClose⟩
    have notClose : ∀ token ∈ before, decide (token ≠ .closeParen) = true := by
      intro token member
      rw [decide_eq_true_eq]
      rintro rfl
      exact noClose member
    rw [List.takeWhile_append_of_pos notClose, List.takeWhile_cons_of_pos (by simp)]
    simp

/-- The fields of an insertion after their opening parenthesis, and what opens the
first row. -/
def fieldsBeforeRows : Clause (List String) := do
  let fields ← insertedFieldSeries.clause
  skip (.keyword .VALUES) .missingRows
  skip .openParen .missingRows
  return fields

/-- What comes between the table of an insertion and the values of its first row. -/
def rowsOpening : Clause (List String) := do
  skip .openParen .missingRows
  refuseWildcard
  fieldsBeforeRows

/-- The rows of an insertion, as a part of the statement with some table and
fields. -/
def insertedRows (table : String) (fields : List String) : Clause Statement := do
  let rows ← (rowSeries fields.length).clause
  return { Statement.ofTable .insert table with
    fields := fields
    rows := rows }

/-- After its table, an insertion is a header and rows. -/
theorem run_insertion_literal
    (name : String)
    (tokens : List Token) :
    insertion.run (.literal name :: tokens) =
      (rowsOpening >>= insertedRows name).run tokens := by
  rw [insertion, run_bind_of_ok (run_table_eq_ok_iff.mpr rfl)]
  simp only [rowsOpening, fieldsBeforeRows, bind_assoc, pure_bind]
  rfl

theorem fieldsBeforeRows_failsWithin : fieldsBeforeRows.FailsWithin [.missingRows] := by
  refine .bind insertedFields_failsWithin fun fields => ?_
  refine .bind (failsWithin_skip (by decide)) fun _ => ?_
  exact .bind (failsWithin_skip (by decide)) fun _ => failsWithin_pure _

/-- Once the rows have been opened only they are refused. -/
theorem insertedRows_failsWithin
    (table : String)
    (fields : List String) :
    (insertedRows table fields).FailsWithin rowFaults :=
  .bind (rows_failsWithin _) fun _ => failsWithin_pure _

/-- A header is read as it is derived. -/
theorem run_rowsOpening_eq_ok_iff
    {tokens rest : List Token}
    {fields : List String} :
    rowsOpening.run tokens = .ok (fields, rest) ↔
      ∃ fieldTokens,
        tokens = .openParen ::
            (fieldTokens ++ .closeParen :: .keyword .VALUES :: .openParen :: rest) ∧
          Separated [.comma] Name fields fieldTokens := by
  simp only [rowsOpening, fieldsBeforeRows, run_bind_eq_ok_iff, Unique.exists_iff,
    PUnit.default_eq_unit, run_skip_eq_ok_iff, run_refuseWildcard_eq_ok_iff,
    run_pure_eq_ok_iff]
  constructor
  · rintro ⟨_, rfl, _, ⟨-, rfl⟩, read, afterFields, fieldsRead, _, rfl, _, rfl, rfl,
      rfl⟩
    obtain ⟨fieldTokens, last, rfl, named, finished⟩ :=
      insertedFieldSeries_follows.read_eq_ok_iff.mp fieldsRead
    rw [run_afterInsertedField_finished.mp finished]
    exact ⟨fieldTokens, rfl, named⟩
  · rintro ⟨fieldTokens, rfl, named⟩
    refine ⟨_, rfl, _, ⟨wildcardBeforeClose_of_names named _, rfl⟩, fields, _, ?_, _,
      rfl, _, rfl, rfl, rfl⟩
    exact insertedFieldSeries_follows.read_eq_ok_iff.mpr
      ⟨fieldTokens, _, rfl, named, run_afterInsertedField_finished.mpr rfl⟩

/-- The rows are opened exactly if everything before them is read. -/
theorem opensRows_iff
    {tokens : List Token} :
    OpensRows tokens ↔ ∃ fields rest, rowsOpening.run tokens = .ok (fields, rest) := by
  simp only [run_rowsOpening_eq_ok_iff]
  constructor
  · rintro ⟨fields, fieldTokens, rest, whole, named⟩
    exact ⟨fields, rest, fieldTokens, whole, named⟩
  · rintro ⟨fields, rest, fieldTokens, whole, named⟩
    exact ⟨fields, fieldTokens, rest, whole, named⟩

/-- A header is refused for a wildcard exactly if there is one among its fields. -/
theorem run_rowsOpening_eq_wildcardInserted_iff
    {tokens : List Token} :
    rowsOpening.run tokens = .error .wildcardInserted ↔ WildcardAmongFields tokens := by
  constructor
  · intro failed
    rcases run_bind_eq_error_iff.mp failed with skipFailed | ⟨_, between, opened, failed⟩
    · cases (run_skip_eq_error_iff.mp skipFailed).1
    rw [run_skip_eq_ok_iff.mp opened]
    rcases run_bind_eq_error_iff.mp failed with refused | ⟨_, rest, -, fieldsFailed⟩
    · rw [run_refuseWildcard] at refused
      by_cases wildcard : wildcardBeforeClose between
      · obtain ⟨before, after, rfl, noClose⟩ :=
          wildcardBeforeClose_eq_true_iff.mp wildcard
        exact ⟨before, after, rfl, noClose⟩
      · rw [if_neg wildcard] at refused
        cases refused
    · have absent : SyntaxFault.wildcardInserted ∉ [SyntaxFault.missingRows] := by decide
      exact absurd (fieldsBeforeRows_failsWithin _ _ fieldsFailed) absent
  · rintro ⟨before, after, rfl, noClose⟩
    rw [rowsOpening, run_bind_of_ok (run_skip_eq_ok_iff.mpr rfl)]
    apply run_bind_of_error
    rw [run_refuseWildcard,
      if_pos (wildcardBeforeClose_eq_true_iff.mpr ⟨before, after, rfl, noClose⟩)]

/-- Up to where the rows are opened either an asterisk is refused or the rows are
missing. -/
theorem rowsOpening_failsWithin :
    rowsOpening.FailsWithin [.missingRows, .wildcardInserted] := by
  refine .bind (failsWithin_skip (by decide)) fun _ => ?_
  refine .bind (refuseWildcard_failsWithin.mono (by decide)) fun _ => ?_
  exact fieldsBeforeRows_failsWithin.mono (by decide)

/-- A header without a wildcard among its fields is refused exactly if it does not
open rows. -/
theorem run_rowsOpening_eq_missingRows_iff
    {tokens : List Token} :
    rowsOpening.run tokens = .error .missingRows ↔
      ¬WildcardAmongFields tokens ∧ ¬OpensRows tokens := by
  rw [← run_rowsOpening_eq_wildcardInserted_iff, opensRows_iff]
  cases result : rowsOpening.run tokens with
  | ok read =>
      obtain ⟨fields, after⟩ := read
      simp
  | error fault =>
      have listed := rowsOpening_failsWithin _ _ result
      simp only [List.mem_cons, List.not_mem_nil, or_false] at listed
      rcases listed with rfl | rfl <;> simp

/-- The faults of a header are those of the insertion that it belongs to. -/
theorem run_insertion_eq_error_iff
    {fault : SyntaxFault}
    (notOfRows : fault ∉ rowFaults)
    (name : String)
    (tokens : List Token) :
    insertion.run (.literal name :: tokens) = .error fault ↔
      rowsOpening.run tokens = .error fault := by
  rw [run_insertion_literal, run_bind_eq_error_iff]
  refine or_iff_left ?_
  rintro ⟨fields, rest, -, rowsFailed⟩
  exact notOfRows (insertedRows_failsWithin _ _ _ _ rowsFailed)

end Clause

/-- An insertion is refused for a wildcard exactly if there is one among its fields,
whatever else is wrong with it. It is refused for missing rows exactly if there is
none and its header does not open rows. So with a header that is in order it is
refused for neither. -/
theorem Statement.ofTokens_insertion_header
    (table : String)
    (rest : List Token) :
    (TokensFailWith (openingWords .insert ++ .literal table :: rest)
        "at INSERT INTO: expected at least one field to insert" ↔
      WildcardAmongFields rest) ∧
    (TokensFailWith (openingWords .insert ++ .literal table :: rest)
        "at INSERT INTO: need at least one row to insert" ↔
      ¬WildcardAmongFields rest ∧ ¬OpensRows rest) := by
  have ofHeader (fault : SyntaxFault)
      (ofInsertion : fault.clause? = some .insert)
      (notOfRows : fault ∉ Clause.rowFaults) :
      TokensFailWith (openingWords .insert ++ .literal table :: rest) fault.message ↔
        Clause.rowsOpening.run rest = .error fault := by
    rw [tokensFailWith_message_iff ofInsertion, ofTokens_eq_error_iff,
      Clause.run_statement_openingWords]
    exact Clause.run_insertion_eq_error_iff notOfRows table rest
  constructor
  · rw [← Clause.run_rowsOpening_eq_wildcardInserted_iff]
    exact ofHeader .wildcardInserted rfl (by decide)
  · rw [← Clause.run_rowsOpening_eq_missingRows_iff]
    exact ofHeader .missingRows rfl (by decide)

example :
    Statement.ofText "insert into 't' (a b, * values" = .error .wildcardInserted := by
  decide +kernel

end SqlDialect
