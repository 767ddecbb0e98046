import SqlDialect.Clause.Selection

/-!
# Insertions

An insertion names its table in quotes and its fields in parentheses, and after
the word `VALUES` has rows of quoted values in parentheses, with commas between
neighbours, up to the end. A row has as many values as there are fields.

Whatever is wrong before the first row counts as missing rows, except that a
wildcard among the fields is found out first. A row that the end of the
statement cuts off is refused for its count of values before it is refused for
having no end.
-/

namespace SqlDialect
namespace Clause

/-- A field into which values are inserted. -/
def insertedField : Clause String :=
  expect Token.field? .missingRows

/-- After a field, either a comma or the closing parenthesis stands. -/
def afterInsertedField : Clause Following
  | .comma :: rest => .ok (.another, rest)
  | .closeParen :: rest => .ok (.finished, rest)
  | _ => .error .missingRows

theorem run_afterInsertedField_another
    {tokens rest : List Token} :
    afterInsertedField.run tokens = .ok (.another, rest) ↔
      tokens = .comma :: rest := by
  simp only [StateT.run]
  fun_cases afterInsertedField tokens <;> grind

/-- The fields of an insertion, up to the closing parenthesis. -/
def insertedFieldSeries : Series String where
  item := insertedField
  following := afterInsertedField
  advances := by
    intro tokens read afterItem rest itemRead followed
    obtain ⟨token, rfl, -⟩ := run_expect_eq_ok_iff.mp itemRead
    rw [run_afterInsertedField_another.mp followed]
    simp only [List.length_cons]
    omega

/-- Whether a wildcard stands before the first closing parenthesis. -/
def wildcardBeforeClose (tokens : List Token) : Bool :=
  .asterisk ∈ tokens.takeWhile fun token => token ≠ .closeParen

/-- Fail if a wildcard stands among the fields. -/
def refuseWildcard : Clause Unit := do
  if wildcardBeforeClose (← get) then
    throw .wildcardInserted

theorem run_refuseWildcard (tokens : List Token) :
    refuseWildcard.run tokens =
      if wildcardBeforeClose tokens then .error .wildcardInserted
      else .ok ((), tokens) := by
  unfold refuseWildcard
  cases wildcard : wildcardBeforeClose tokens <;> simp [wildcard] <;> rfl

/-- The values of a row that has some, and what follows its closing
parenthesis. Nothing follows a row that the end of the statement cuts off. -/
def rowValues :
    List Token → Except SyntaxFault (List String × Option (List Token))
  | [] => .ok ([], none)
  | [.literal value] => .ok ([value], none)
  | .literal value :: .closeParen :: rest => .ok ([value], some rest)
  | .literal value :: .comma :: rest =>
      match rowValues rest with
      | .ok (values, afterRow) => .ok (value :: values, afterRow)
      | .error fault => .error fault
  | .literal _ :: _ :: _ => .error .missingValueComma
  | _ :: _ => .error .missingRowValue

/-- The values of a row, which may have none. -/
def rowBody :
    List Token → Except SyntaxFault (List String × Option (List Token))
  | .closeParen :: rest => .ok ([], some rest)
  | tokens => rowValues tokens

/-- A row of some width, after its opening parenthesis. -/
def row (width : Nat) : Clause (List String) := fun tokens =>
  match rowBody tokens with
  | .error fault => .error fault
  | .ok (values, afterRow) =>
      if values.length = width then
        match afterRow with
        | some rest => .ok (values, rest)
        | none => .error .missingValueComma
      else
        .error .unequalCounts

/-- After a row, either a comma and the next row stand, or the statement
ends. -/
def afterRow : Clause Following
  | [] => .ok (.finished, [])
  | .comma :: .openParen :: rest => .ok (.another, rest)
  | .comma :: _ => .error .missingRowStart
  | _ => .error .missingRowComma

theorem length_rowValues_lt
    {tokens rest : List Token}
    {values : List String}
    (read : rowValues tokens = .ok (values, some rest)) :
    rest.length < tokens.length := by
  induction tokens using rowValues.induct generalizing values with
  | case1 => simp [rowValues] at read
  | case2 => simp [rowValues] at read
  | case3 value tail =>
      simp only [rowValues, Except.ok.injEq, Prod.mk.injEq,
        Option.some.injEq] at read
      rw [← read.2, List.length_cons, List.length_cons]
      omega
  | case4 value tail innerValues innerRest innerRead inductionHypothesis =>
      simp only [rowValues, innerRead, Except.ok.injEq, Prod.mk.injEq] at read
      have shorter := inductionHypothesis (read.2 ▸ innerRead)
      rw [List.length_cons, List.length_cons]
      omega
  | case5 value tail fault innerRead =>
      simp [rowValues, innerRead] at read
  | case6 => simp_all [rowValues]
  | case7 => simp_all [rowValues]

/-- A row is read if its values are, up to its closing parenthesis, and they are as many
as the width says. -/
theorem row_eq_ok_iff_rowBody
    {width : Nat}
    {tokens rest : List Token}
    {values : List String} :
    row width tokens = .ok (values, rest) ↔
      rowBody tokens = .ok (values, some rest) ∧ values.length = width := by
  rw [row]
  cases rowBody tokens with
  | error fault => simp
  | ok body =>
      obtain ⟨found, afterRow⟩ := body
      cases afterRow <;> grind

theorem length_row_lt
    {width : Nat}
    {tokens rest : List Token}
    {values : List String}
    (read : row width tokens = .ok (values, rest)) :
    rest.length < tokens.length := by
  obtain ⟨body, -⟩ := row_eq_ok_iff_rowBody.mp read
  revert body
  fun_cases rowBody tokens with
  | case1 tail => grind
  | case2 => exact length_rowValues_lt

theorem run_afterRow_another
    {tokens rest : List Token} :
    afterRow.run tokens = .ok (.another, rest) ↔
      tokens = .comma :: .openParen :: rest := by
  simp only [StateT.run]
  fun_cases afterRow tokens <;> grind

/-- The rows of an insertion, up to its end. -/
def rowSeries (width : Nat) : Series (List String) where
  item := row width
  following := afterRow
  advances := by
    intro tokens read afterItem rest itemRead followed
    have shorter := length_row_lt itemRead
    rw [run_afterRow_another.mp followed] at shorter
    simp only [List.length_cons] at shorter
    omega

/-- An insertion, after the words `INSERT INTO`. -/
def insertion : Clause Statement := do
  let table ← table
  skip .openParen .missingRows
  refuseWildcard
  let fields ← insertedFieldSeries.clause
  skip (.keyword .VALUES) .missingRows
  skip .openParen .missingRows
  let rows ← (rowSeries fields.length).clause
  return { Statement.ofTable .insert table with
    fields := fields
    rows := rows }

end Clause
end SqlDialect
