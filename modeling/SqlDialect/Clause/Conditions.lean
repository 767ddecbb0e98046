import SqlDialect.Clause.Series
import SqlDialect.Condition

/-!
# The conditions of a statement

After the word `WHERE` come one or more conditions with `AND` between
neighbours, and nothing follows them. An update and a deletion have to have
conditions: that the word is absent from the rest of the statement is found out
before anything else that may be wrong there.
-/

namespace SqlDialect
namespace Clause

/-- One condition. -/
def condition : Clause Condition := do
  let left ← expect Token.operand? .missingLeftOperand
  let comparison ← expect Token.comparison? .missingComparison
  let right ← expect Token.operand? .missingRightOperand
  return ⟨left, comparison, right⟩

/-- A condition is an operand, a comparison and an operand. -/
theorem run_condition_eq_ok_iff
    {tokens rest : List Token}
    {read : Condition} :
    condition.run tokens = .ok (read, rest) ↔
      ∃ left comparison right,
        tokens = left :: comparison :: right :: rest ∧
          left.operand? = some read.left ∧
          comparison.comparison? = some read.comparison ∧
          right.operand? = some read.right := by
  simp only [condition, run_bind_eq_ok_iff, run_expect_eq_ok_iff,
    run_pure_eq_ok_iff]
  constructor
  · rintro ⟨left, _, ⟨leftToken, rfl, leftMeaning⟩, comparison, _,
      ⟨comparisonToken, rfl, comparisonMeaning⟩, right, _,
      ⟨rightToken, rfl, rightMeaning⟩, rfl, rfl⟩
    exact ⟨leftToken, comparisonToken, rightToken, rfl, leftMeaning,
      comparisonMeaning, rightMeaning⟩
  · rintro ⟨left, comparison, right, rfl, leftMeaning, comparisonMeaning,
      rightMeaning⟩
    exact ⟨_, _, ⟨_, rfl, leftMeaning⟩, _, _, ⟨_, rfl, comparisonMeaning⟩,
      _, _, ⟨_, rfl, rightMeaning⟩, rfl, rfl⟩

/-- After a condition, either `AND` stands or the statement ends. -/
def afterCondition : Clause Following
  | [] => .ok (.finished, [])
  | .keyword .AND :: rest => .ok (.another, rest)
  | _ => .error .missingAnd

theorem run_afterCondition_another
    {tokens rest : List Token} :
    afterCondition.run tokens = .ok (.another, rest) ↔
      tokens = .keyword .AND :: rest := by
  simp only [StateT.run]
  fun_cases afterCondition tokens <;> grind

/-- Conditions with `AND` between neighbours. -/
def conditionSeries : Series Condition where
  item := condition
  following := afterCondition
  advances := by
    intro tokens read afterItem rest itemRead followed
    obtain ⟨left, comparison, right, rfl, -⟩ :=
      run_condition_eq_ok_iff.mp itemRead
    rw [run_afterCondition_another.mp followed]
    simp only [List.length_cons]
    omega

/-- The conditions after the word `WHERE`, up to the end. -/
def conditions : Clause (List Condition) := do
  if (← get).isEmpty then
    throw .emptyWhere
  conditionSeries.clause

theorem run_conditions_nil :
    conditions.run [] = .error .emptyWhere := rfl

theorem run_conditions_cons
    (token : Token)
    (rest : List Token) :
    conditions.run (token :: rest) =
      conditionSeries.clause.run (token :: rest) := rfl

/-- The word `WHERE` and the conditions after it. -/
def whereClause : Clause (List Condition) := do
  skip (.keyword .WHERE) .missingWhere
  conditions

/-- Fail unless the word `WHERE` is still to come. -/
def demandWhere : Clause Unit := do
  unless .keyword .WHERE ∈ (← get) do
    throw .absentWhere

theorem run_demandWhere (tokens : List Token) :
    demandWhere.run tokens =
      if .keyword .WHERE ∈ tokens then .ok ((), tokens)
      else .error .absentWhere := by
  by_cases present : Token.keyword .WHERE ∈ tokens
  · rw [if_pos present]
    simp only [demandWhere, StateT.run_bind, StateT.run_get, pure_bind, present,
      if_true]
    rfl
  · rw [if_neg present]
    simp only [demandWhere, StateT.run_bind, StateT.run_get, pure_bind, present,
      if_false]
    rfl

end Clause
end SqlDialect
