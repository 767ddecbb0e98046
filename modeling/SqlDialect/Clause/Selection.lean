import SqlDialect.Clause.Conditions
import SqlDialect.Statement

/-!
# Selections

After the word `SELECT` come items with commas between neighbours, the word
`FROM`, a quoted table, and possibly conditions. An item is the wildcard, or a
field with or without a label.

Wherever the statement ends before its table, it is the table that is missing.
-/

namespace SqlDialect
namespace Clause

/-- An item of a selection. -/
inductive SelectedItem
  | wildcard
  | field (name : String) (label? : Option String)
  deriving DecidableEq

namespace SelectedItem

/-- The name under which an item stands among the fields of a statement. -/
def name : SelectedItem → String
  | wildcard => wildcardName
  | field name _ => name

/-- The label that an item gives to its field. -/
def labelling? : SelectedItem → Option (String × String)
  | wildcard => none
  | field name label? => label?.map fun label => (name, label)

end SelectedItem

/-- Why no label stands where one has to. -/
def labelFault (selected : String) (tokens : List Token) : SyntaxFault :=
  if tokens.isEmpty then .missingTable else .missingLabel selected

/-- The rest of an item that is the wildcard, which can have no label. -/
def wildcardItem : Clause SelectedItem
  | .keyword .AS :: rest => .error (labelFault wildcardName rest)
  | tokens => .ok (.wildcard, tokens)

/-- The rest of an item that is a field. A field with the name of the wildcard
can have no label either. -/
def fieldItem (name : String) : Clause SelectedItem
  | .keyword .AS :: rest =>
      if name = wildcardName then
        .error (labelFault name rest)
      else
        match expect Token.field? (labelFault name rest) rest with
        | .ok (label, afterLabel) => .ok (.field name (some label), afterLabel)
        | .error fault => .error fault
  | tokens => .ok (.field name none, tokens)

/-- One item of a selection. -/
def selectedItem : Clause SelectedItem
  | [] => .error .missingTable
  | .asterisk :: rest => wildcardItem rest
  | first :: rest =>
      match first.field? with
      | some name => fieldItem name rest
      | none => .error .missingSelectedField

/-- After an item, either a comma or the word `FROM` stands. -/
def afterSelectedItem : Clause Following
  | .comma :: rest => .ok (.another, rest)
  | .keyword .FROM :: rest => .ok (.finished, rest)
  | [] => .error .missingTable
  | _ => .error .missingFrom

theorem length_wildcardItem_le
    {tokens rest : List Token}
    {item : SelectedItem}
    (read : wildcardItem tokens = .ok (item, rest)) :
    rest.length ≤ tokens.length := by
  revert read
  fun_cases wildcardItem tokens <;> grind

theorem length_fieldItem_le
    {name : String}
    {tokens rest : List Token}
    {item : SelectedItem}
    (read : fieldItem name tokens = .ok (item, rest)) :
    rest.length ≤ tokens.length := by
  revert read
  fun_cases fieldItem name tokens with
  | case1 => simp
  | case2 tail _ label afterLabel labelRead =>
      intro read
      obtain ⟨token, rfl, -⟩ := run_expect_eq_ok_iff.mp labelRead
      grind
  | case3 => simp
  | case4 => grind

/-- An item takes at least one token, so that a list of items comes to an end. -/
theorem length_selectedItem_lt
    {tokens rest : List Token}
    {item : SelectedItem}
    (read : selectedItem tokens = .ok (item, rest)) :
    rest.length < tokens.length := by
  revert read
  fun_cases selectedItem tokens with
  | case1 => simp
  | case2 tail => exact fun read => Nat.lt_succ_of_le (length_wildcardItem_le read)
  | case3 first tail _ name =>
      exact fun read => Nat.lt_succ_of_le (length_fieldItem_le read)
  | case4 => simp

/-- Another item follows after a comma, and only there. -/
theorem run_afterSelectedItem_another
    {tokens rest : List Token} :
    afterSelectedItem.run tokens = .ok (.another, rest) ↔
      tokens = .comma :: rest := by
  simp only [StateT.run]
  fun_cases afterSelectedItem tokens <;> grind

/-- The items of a selection, up to the word `FROM`. -/
def selectedItemSeries : Series SelectedItem where
  item := selectedItem
  following := afterSelectedItem
  advances := by
    intro tokens read afterItem rest itemRead followed
    have shorter := length_selectedItem_lt itemRead
    rw [run_afterSelectedItem_another.mp followed] at shorter
    rw [List.length_cons] at shorter
    omega

/-- A quoted table. -/
def table : Clause String :=
  expect Token.value? .missingTable

/-- The conditions of a selection, or none where the statement ends. -/
def optionalWhereClause : Clause (List Condition) := do
  if (← get).isEmpty then
    return []
  whereClause

theorem run_optionalWhereClause_nil :
    optionalWhereClause.run [] = .ok ([], []) := rfl

theorem run_optionalWhereClause_cons
    (token : Token)
    (rest : List Token) :
    optionalWhereClause.run (token :: rest) =
      whereClause.run (token :: rest) := rfl

/-- The statement that selects some items. -/
def selectionOf
    (items : List SelectedItem)
    (table : String)
    (conditions : List Condition) : Statement :=
  { Statement.ofTable .select table with
    fields := items.map SelectedItem.name
    labels := .ofList (items.filterMap SelectedItem.labelling?)
    conditions := conditions }

/-- A selection, after the word `SELECT`. -/
def selection : Clause Statement := do
  let items ← selectedItemSeries.clause
  let table ← table
  let conditions ← optionalWhereClause
  return selectionOf items table conditions

end Clause
end SqlDialect
