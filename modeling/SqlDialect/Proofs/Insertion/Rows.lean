import SqlDialect.Proofs.Faults.Unfinished
import SqlDialect.Proofs.Insertion.Header

/-!
# The rows of an insertion

A row in parentheses is judged by what stands between them and by the number of the
fields, whatever follows its closing parenthesis (`Clause.row_append_closeParen`). So
rows are read one by one as each would be read alone, up to the first that is refused
(`Clause.read_rowsBefore`).

A row that the end of the statement cuts off can have any number of values. It is
refused in any case, and the number of its values tells how.
-/

namespace SqlDialect

open Grammar

/-- Tokens in parentheses. -/
def rowGroup (body : List Token) : List Token :=
  .openParen :: (body ++ [.closeParen])

/-- Values with a comma between neighbours. -/
def valueTokens (values : List String) : List Token :=
  [Token.comma].intercalate (values.map fun value => [.literal value])

/-- An insertion, given the tokens of its fields and those of each of its rows. -/
def insertionTokens
    (table : String)
    (fieldTokens : List Token)
    (rows : List (List Token)) : List Token :=
  openingWords .insert ++ .literal table :: .openParen ::
    (fieldTokens ++ .closeParen :: .keyword .VALUES :: [Token.comma].intercalate rows)

/-- The statement that inserts some rows. -/
def insertionOf
    (table : String)
    (fields : List String)
    (rows : List (List String)) : Statement :=
  { Statement.ofTable .insert table with
    fields := fields
    rows := rows }

/-! ## Lists of computations -/

section

variable
  {inputs : List α}
  {compute : α → Except ε β}

/-- Values that are made of computed ones are all of them computed, or the first fault
is the same. -/
theorem mapM_eq_map_mapM
    {other : α → Except ε γ}
    {make : β → γ}
    (isMade : ∀ input ∈ inputs, other input = (compute input).map make) :
    inputs.mapM other = (inputs.mapM compute).map (List.map make) := by
  induction inputs with
  | nil => rfl
  | cons input inputs inductionHypothesis =>
      obtain ⟨first, others⟩ := List.forall_mem_cons.mp isMade
      rw [List.mapM_cons, List.mapM_cons, first, inductionHypothesis others]
      cases compute input with
      | error fault => rfl
      | ok value => cases inputs.mapM compute <;> rfl

theorem exists_mapM_eq_ok
    (computed : ∀ input ∈ inputs, ∃ value, compute input = .ok value) :
    ∃ values, inputs.mapM compute = .ok values := by
  induction inputs with
  | nil => exact ⟨[], rfl⟩
  | cons input inputs inductionHypothesis =>
      obtain ⟨⟨value, first⟩, others⟩ := List.forall_mem_cons.mp computed
      obtain ⟨values, rest⟩ := inductionHypothesis others
      refine ⟨value :: values, ?_⟩
      rw [List.mapM_cons, first, rest]
      rfl

end

/-! ## One row -/

namespace Clause

/-- What a row of some width gives that consists of some tokens in parentheses. -/
def judgedRow
    (width : Nat)
    (body : List Token) : Except SyntaxFault (List String) :=
  (row width (body ++ [.closeParen])).map Prod.fst

section

variable {body : List Token}

/-- The values up to a closing parenthesis do not depend on what follows it. -/
theorem exists_rowValues_append_closeParen
    (noClose : .closeParen ∉ body) :
    ∃ judged : Except SyntaxFault (List String), ∀ rest,
      rowValues (body ++ .closeParen :: rest) =
        judged.map fun values => (values, some rest) := by
  induction body using rowValues.induct with
  | case1 => exact ⟨.error .missingRowValue, fun _ => rfl⟩
  | case2 value => exact ⟨.ok [value], fun _ => rfl⟩
  | case3 => simp at noClose
  | case4 value tail _ _ _ inductionHypothesis
  | case5 value tail _ _ inductionHypothesis =>
      obtain ⟨judged, judges⟩ := inductionHypothesis fun member =>
        noClose (List.mem_cons_of_mem _ (List.mem_cons_of_mem _ member))
      refine ⟨judged.map fun values => value :: values, fun rest => ?_⟩
      rw [List.cons_append, List.cons_append, rowValues, judges]
      cases judged <;> rfl
  | case6 value second tail notClose notComma =>
      refine ⟨.error .missingValueComma, fun rest => ?_⟩
      rw [List.cons_append, List.cons_append]
      cases second with
      | closeParen => exact absurd rfl notClose
      | comma => exact absurd rfl notComma
      | _ => rfl
  | case7 first tail noValue noClosed noComma noOther =>
      refine ⟨.error .missingRowValue, fun rest => ?_⟩
      cases first with
      | literal value =>
          cases tail with
          | nil => exact absurd rfl (noValue value rfl)
          | cons second tail => exact absurd rfl (noOther value second tail rfl)
      | _ => rfl

/-- What is found in a row that is closed does not depend on what follows it. -/
theorem exists_rowBody_append_closeParen
    (noClose : .closeParen ∉ body) :
    ∃ judged : Except SyntaxFault (List String), ∀ rest,
      rowBody (body ++ .closeParen :: rest) =
        judged.map fun values => (values, some rest) := by
  cases body with
  | nil => exact ⟨.ok [], fun _ => rfl⟩
  | cons first tail =>
      obtain ⟨judged, judges⟩ := exists_rowValues_append_closeParen noClose
      refine ⟨judged, fun rest => ?_⟩
      rw [← judges]
      apply rowBody_of_head?_ne
      rintro ⟨⟩
      exact noClose List.mem_cons_self

/-- A row is judged by what stands in its parentheses. -/
theorem row_append_closeParen
    (width : Nat)
    (noClose : .closeParen ∉ body)
    (rest : List Token) :
    row width (body ++ .closeParen :: rest) =
      (judgedRow width body).map fun values => (values, rest) := by
  obtain ⟨judged, judges⟩ := exists_rowBody_append_closeParen noClose
  rw [judgedRow, row, row, judges, judges]
  cases judged with
  | error fault => rfl
  | ok values =>
      simp only [Except.map]
      split <;> rfl

/-- A row that is in order by itself is read before anything that follows. -/
theorem run_row_of_judged
    {width : Nat}
    {values : List String}
    (noClose : .closeParen ∉ body)
    (judged : judgedRow width body = .ok values)
    (rest : List Token) :
    (rowSeries width).item.run (body ++ .closeParen :: rest) = .ok (values, rest) := by
  refine (row_append_closeParen width noClose rest).trans ?_
  rw [judged]
  rfl

theorem run_row_of_refused
    {width : Nat}
    {fault : SyntaxFault}
    (noClose : .closeParen ∉ body)
    (refused : judgedRow width body = .error fault)
    (rest : List Token) :
    (rowSeries width).item.run (body ++ .closeParen :: rest) = .error fault := by
  refine (row_append_closeParen width noClose rest).trans ?_
  rw [refused]
  rfl

/-! ## Several rows -/

/-- A row that is closed where the tokens end is read as it is judged by itself. -/
theorem read_lastRow
    (width : Nat)
    (noClose : .closeParen ∉ body) :
    (rowSeries width).read (body ++ [.closeParen]) =
      (judgedRow width body).map fun values => ([values], []) := by
  cases judged : judgedRow width body with
  | error fault =>
      exact Series.read_of_item_error (run_row_of_refused noClose judged [])
  | ok values =>
      exact Series.read_of_finished (run_row_of_judged noClose judged []) rfl

end

/-- Rows without their first opening parenthesis, and that of one more row. -/
def rowsBefore (bodies : List (List Token)) : List Token :=
  bodies.flatMap fun body => body ++ [.closeParen, .comma, .openParen]

theorem rowsBefore_cons
    (body : List Token)
    (bodies : List (List Token))
    (rest : List Token) :
    rowsBefore (body :: bodies) ++ rest =
      body ++ .closeParen :: .comma :: .openParen :: (rowsBefore bodies ++ rest) := by
  simp [rowsBefore]

/-- Rows before others are read as each of them is judged, and then the others are
read. -/
theorem read_rowsBefore
    {bodies : List (List Token)}
    (width : Nat)
    (noClose : ∀ body ∈ bodies, .closeParen ∉ body)
    (rest : List Token) :
    (rowSeries width).read (rowsBefore bodies ++ rest) = do
      let rows ← bodies.mapM (judgedRow width)
      let others ← (rowSeries width).read rest
      return (rows ++ others.1, others.2) := by
  induction bodies with
  | nil => exact (bind_pure ((rowSeries width).read rest)).symm
  | cons body bodies inductionHypothesis =>
      obtain ⟨firstNoClose, othersNoClose⟩ := List.forall_mem_cons.mp noClose
      rw [rowsBefore_cons, List.mapM_cons]
      cases judged : judgedRow width body with
      | error fault =>
          exact Series.read_of_item_error (run_row_of_refused firstNoClose judged _)
      | ok values =>
          have firstRead := run_row_of_judged firstNoClose judged
            (.comma :: .openParen :: (rowsBefore bodies ++ rest))
          rw [Series.read_of_another_eq firstRead rfl, inductionHypothesis othersNoClose]
          cases bodies.mapM (judgedRow width) with
          | error fault => rfl
          | ok rows => cases (rowSeries width).read rest <;> rfl

/-! ## A row that is cut off -/

theorem valueTokens_cons_cons
    (value next : String)
    (values : List String) :
    valueTokens (value :: next :: values) =
      .literal value :: .comma :: valueTokens (next :: values) := by
  simp [valueTokens, List.intercalate_cons_cons]

/-- Values after which the tokens end are a row that is cut off, also with a comma after
the last one. -/
theorem rowValues_cutOff
    {ending : List Token}
    (isEnding : ending = [] ∨ ending = [.comma])
    (value : String)
    (values : List String) :
    rowValues (valueTokens (value :: values) ++ ending) =
      .ok (value :: values, none) := by
  induction values generalizing value with
  | nil => rcases isEnding with rfl | rfl <;> rfl
  | cons next values inductionHypothesis =>
      rw [valueTokens_cons_cons, List.cons_append, List.cons_append, rowValues,
        inductionHypothesis]

/-- A row that the end cuts off, possibly after a comma, is refused for the number of
its values, or if that is right, for having no end. -/
theorem read_cutOff
    {values : List String}
    {ending : List Token}
    (width : Nat)
    (isEnding : ending = [] ∨ values ≠ [] ∧ ending = [.comma]) :
    (rowSeries width).read (valueTokens values ++ ending) =
      .error (if values.length = width then .missingValueComma else .unequalCounts) := by
  have body : rowBody (valueTokens values ++ ending) = .ok (values, none) := by
    cases values with
    | nil =>
        obtain rfl : ending = [] := by simpa using isEnding
        rfl
    | cons value values =>
        have startsWithValue :
            (valueTokens (value :: values) ++ ending).head? ≠ some .closeParen := by
          cases values <;> simp [valueTokens, List.intercalate_cons_cons]
        rw [rowBody_of_head?_ne startsWithValue]
        exact rowValues_cutOff (isEnding.imp_right And.right) value values
  apply Series.read_of_item_error
  change row width (valueTokens values ++ ending) = _
  by_cases equalCounts : values.length = width <;> simp [row, body, equalCounts]

end Clause

/-! ## Insertions of several rows -/

/-- Rows with commas between them are read one after another from the opening of the
first. -/
theorem intercalate_rowGroups
    (bodies : List (List Token))
    (last : List Token) :
    [Token.comma].intercalate (bodies.map rowGroup ++ [.openParen :: last]) =
      .openParen :: (Clause.rowsBefore bodies ++ last) := by
  induction bodies with
  | nil => exact List.intercalate_singleton
  | cons body bodies inductionHypothesis =>
      obtain ⟨next, others, isList⟩ : ∃ next others,
          bodies.map rowGroup ++ [.openParen :: last] = next :: others :=
        List.exists_cons_of_ne_nil (by simp)
      rw [isList] at inductionHypothesis
      rw [List.map_cons, List.cons_append, isList, List.intercalate_cons_cons,
        inductionHypothesis, Clause.rowsBefore_cons]
      simp [rowGroup]

namespace Statement

section

variable
  {fields : List String}
  {fieldTokens : List Token}
  {bodies : List (List Token)}

/-- An insertion is read as its rows are. -/
theorem ofTokens_insertionTokens
    (named : Separated [.comma] Name fields fieldTokens)
    (table : String)
    (bodies : List (List Token))
    (last : List Token) :
    ofTokens (insertionTokens table fieldTokens
        (bodies.map rowGroup ++ [.openParen :: last])) =
      ((Clause.rowSeries fields.length).read (Clause.rowsBefore bodies ++ last)).map
        fun read => insertionOf table fields read.1 := by
  have header : Clause.rowsOpening.run
      (.openParen :: (fieldTokens ++ .closeParen :: .keyword .VALUES :: .openParen ::
        (Clause.rowsBefore bodies ++ last))) =
          .ok (fields, Clause.rowsBefore bodies ++ last) :=
    Clause.run_rowsOpening_eq_ok_iff.mpr ⟨fieldTokens, rfl, named⟩
  rw [ofTokens, insertionTokens, Clause.run_statement_openingWords, Clause.ofKind,
    Clause.run_insertion_literal, intercalate_rowGroups, Clause.run_bind_of_ok header,
    Clause.insertedRows, StateT.run_bind]
  change ((Clause.rowSeries fields.length).read _ >>= _).map _ = _
  cases (Clause.rowSeries fields.length).read (Clause.rowsBefore bodies ++ last) <;> rfl

/-- An insertion of one row is read as the row is judged. -/
theorem ofTokens_insertionTokens_singleton
    {body : List Token}
    (named : Separated [.comma] Name fields fieldTokens)
    (noClose : .closeParen ∉ body)
    (table : String) :
    ofTokens (insertionTokens table fieldTokens [rowGroup body]) =
      (Clause.judgedRow fields.length body).map fun row =>
        insertionOf table fields [row] := by
  have whole := ofTokens_insertionTokens named table [] (body ++ [.closeParen])
  rw [List.map_nil, List.nil_append] at whole
  rw [rowGroup, whole]
  change ((Clause.rowSeries fields.length).read (body ++ [.closeParen])).map _ = _
  rw [Clause.read_lastRow _ noClose]
  cases Clause.judgedRow fields.length body <;> rfl

/-- Rows that make insertions by themselves are all in order. -/
theorem exists_mapM_judgedRow
    (named : Separated [.comma] Name fields fieldTokens)
    (noClose : ∀ body ∈ bodies, .closeParen ∉ body)
    {table : String}
    (allRead : ∀ body ∈ bodies, ∃ alone,
      ofTokens (insertionTokens table fieldTokens [rowGroup body]) = .ok alone) :
    ∃ rows, bodies.mapM (Clause.judgedRow fields.length) = .ok rows := by
  refine exists_mapM_eq_ok fun body member => ?_
  obtain ⟨alone, read⟩ := allRead body member
  rw [ofTokens_insertionTokens_singleton named (noClose body member)] at read
  cases judged : Clause.judgedRow fields.length body with
  | error fault =>
      rw [judged] at read
      cases read
  | ok row => exact ⟨row, rfl⟩

/-- Several rows in order make the insertion that holds them. -/
theorem ofTokens_insertion_closedRows
    (named : Separated [.comma] Name fields fieldTokens)
    (noClose : ∀ body ∈ bodies, .closeParen ∉ body)
    (someRows : bodies ≠ [])
    (table : String) :
    ofTokens (insertionTokens table fieldTokens (bodies.map rowGroup)) =
      (bodies.mapM (Clause.judgedRow fields.length)).map (insertionOf table fields) := by
  rcases List.eq_nil_or_concat bodies with rfl | ⟨front, last, rfl⟩
  · exact absurd rfl someRows
  · rw [List.concat_eq_append] at noClose ⊢
    obtain ⟨frontNoClose, lastNoClose⟩ := List.forall_mem_append.mp noClose
    rw [List.map_append, List.map_singleton, rowGroup, ofTokens_insertionTokens named,
      Clause.read_rowsBefore _ frontNoClose,
      Clause.read_lastRow _ (lastNoClose last (List.mem_singleton_self last)),
      List.mapM_append, List.mapM_cons, List.mapM_nil]
    cases front.mapM (Clause.judgedRow fields.length) with
    | error fault => rfl
    | ok rows => cases Clause.judgedRow fields.length last <;> rfl

end

/-- The rows of an insertion are judged one by one: it is read exactly if every row
makes an insertion by itself, and has the rows of these; otherwise it has the fault
of the first row that does not. If after rows that are in order the end cuts off a
row, possibly after a comma, the insertion is refused for the number of values, or if
that is right, for the missing parenthesis. -/
theorem ofTokens_insertion_rows
    {fields : List String}
    {fieldTokens : List Token}
    {bodies : List (List Token)}
    (named : Separated [.comma] Name fields fieldTokens)
    (noClose : ∀ body ∈ bodies, .closeParen ∉ body)
    (table : String) :
    (bodies ≠ [] →
      ofTokens (insertionTokens table fieldTokens (bodies.map rowGroup)) =
        (bodies.mapM fun body =>
          ofTokens (insertionTokens table fieldTokens [rowGroup body])).map
            fun alone => insertionOf table fields (alone.flatMap rows)) ∧
    ((∀ body ∈ bodies, ∃ alone,
        ofTokens (insertionTokens table fieldTokens [rowGroup body]) = .ok alone) →
      ∀ values ending, (ending = [] ∨ values ≠ [] ∧ ending = [.comma]) →
        TokensFailWith
          (insertionTokens table fieldTokens
            (bodies.map rowGroup ++ [.openParen :: (valueTokens values ++ ending)]))
          (if values.length = fields.length then
            "at INSERT INTO: expected comma or closing parens"
          else
            "at INSERT INTO: value count doesn't match field count")) := by
  constructor
  · intro someRows
    have allAlone := mapM_eq_map_mapM fun body member =>
      ofTokens_insertionTokens_singleton named (noClose body member) table
    have held (read : List (List String)) :
        (read.map fun row => insertionOf table fields [row]).flatMap rows = read := by
      rw [List.flatMap_map]
      exact List.flatMap_singleton' read
    rw [ofTokens_insertion_closedRows named noClose someRows, allAlone]
    cases bodies.mapM (Clause.judgedRow fields.length) with
    | error fault => rfl
    | ok read =>
        simp only [Except.map]
        rw [held]
  · intro allRead values ending isEnding
    obtain ⟨read, judged⟩ := exists_mapM_judgedRow named noClose allRead
    refine ⟨if values.length = fields.length then .missingValueComma else .unequalCounts,
      ?_, ?_⟩
    · rw [ofTokens_insertionTokens named, Clause.read_rowsBefore _ noClose, judged,
        Clause.read_cutOff _ isEnding]
      rfl
    · split <;> rfl

/-- After a row for two fields, one without values, which is refused although rows in
order follow it, and one that is cut off after a comma. -/
theorem ofTokens_insertion_rows_twoFields :
    Separated [.comma] Name ["a", "b"] [.ident "a", .comma, .ident "b"] ∧
    (∀ body ∈ [[.literal "1", .comma, .literal "2"], [],
      [.literal "1", .comma, .literal "2"]], Token.closeParen ∉ body) ∧
    ofTokens (insertionTokens "t" [.ident "a", .comma, .ident "b"]
        [rowGroup [.literal "1", .comma, .literal "2"], rowGroup [],
          rowGroup [.literal "1", .comma, .literal "2"]]) =
      .error .unequalCounts ∧
    TokensFailWith
      (insertionTokens "t" [.ident "a", .comma, .ident "b"]
        [rowGroup [.literal "1", .comma, .literal "2"],
          [.openParen, .literal "3", .comma, .literal "4", .comma]])
      "at INSERT INTO: expected comma or closing parens" := by
  have named : Separated [.comma] Name ["a", "b"] [.ident "a", .comma, .ident "b"] :=
    .cons (Name.ident (by decide)) (.single (Name.ident (by decide)))
  have noClose : ∀ body ∈ [[.literal "1", .comma, .literal "2"], [],
      [.literal "1", .comma, .literal "2"]], Token.closeParen ∉ body := by decide
  have inOrder : ofTokens (insertionTokens "t" [.ident "a", .comma, .ident "b"]
      [rowGroup [.literal "1", .comma, .literal "2"]]) =
        .ok (insertionOf "t" ["a", "b"] [["1", "2"]]) := by decide +kernel
  have withoutValues : ofTokens (insertionTokens "t" [.ident "a", .comma, .ident "b"]
      [rowGroup []]) = .error .unequalCounts := by decide +kernel
  refine ⟨named, noClose, ?_, ?_⟩
  · have threeRows := ofTokens_insertion_rows named noClose "t"
    refine (threeRows.1 (by simp)).trans ?_
    rw [List.mapM_cons, List.mapM_cons, inOrder, withoutValues]
    rfl
  · have oneRow := ofTokens_insertion_rows named
      (List.forall_mem_singleton.mpr (List.forall_mem_cons.mp noClose).1) "t"
    exact oneRow.2 (List.forall_mem_singleton.mpr ⟨_, inOrder⟩) ["3", "4"] [.comma]
      (.inr ⟨by simp, rfl⟩)

end Statement

end SqlDialect
