import SqlDialect.Condition
import SqlDialect.SortedMap

/-!
# Statements

A statement of any of the four kinds has the same parts, and leaves the ones
that its kind has no use for empty:

* a selection has fields, where the wildcard counts as one, with labels for
  some of them, and conditions;
* an update has assignments and conditions;
* a deletion has conditions;
* an insertion has fields and rows of values.

Nothing here keeps a statement from having parts that do not belong to its
kind. The assignments of an update are a map in the order in which its fields
were first assigned: `Statement.assign` keeps that order.
-/

namespace SqlDialect

/-- What a statement does. -/
inductive StatementKind
  | select
  | update
  | insert
  | delete
  deriving DecidableEq

namespace StatementKind

/-- All kinds of statement. -/
def all : List StatementKind := [select, update, insert, delete]

theorem mem_all (kind : StatementKind) : kind ∈ all := by
  cases kind <;> decide

/-- The reserved word that a statement of a kind begins with. -/
def keyword : StatementKind → Keyword
  | select => .SELECT
  | update => .UPDATE
  | insert => .INSERT
  | delete => .DELETE

/-- A kind of statement in the words of the dialect. -/
def text (kind : StatementKind) : String :=
  kind.keyword.text

/-- The name of a kind of statement in data formats. -/
def name (kind : StatementKind) : String :=
  kind.keyword.name

theorem name_injective
    {left right : StatementKind}
    (sameName : left.name = right.name) :
    left = right := by
  cases left <;> cases right <;> revert sameName <;> decide

end StatementKind

/-- The name of the wildcard, which selects every field. -/
def wildcardName : String := "*"

/-- A statement. -/
structure Statement where
  kind : StatementKind
  table : String
  fields : List String
  labels : SortedMap String
  conditions : List Condition
  assignments : List (String × String)
  rows : List (List String)
  deriving DecidableEq

/-- Assign a value to a field: in the first assignment to that field, or else
in a new one at the end. -/
def setAssignment (field value : String) :
    List (String × String) → List (String × String)
  | [] => [(field, value)]
  | assignment :: rest =>
      if assignment.1 = field then
        (field, value) :: rest
      else
        assignment :: setAssignment field value rest

namespace Statement

/-- A statement of a kind about a table, with all other parts empty. -/
def ofTable (kind : StatementKind) (table : String) : Statement where
  kind := kind
  table := table
  fields := []
  labels := .empty
  conditions := []
  assignments := []
  rows := []

/-- The value that is assigned to a field, by the first assignment to it. -/
def assigned? (statement : Statement) (field : String) : Option String :=
  (statement.assignments.find? fun assignment => assignment.1 = field).map Prod.snd

/-- Assign a value to a field of a statement. -/
def assign (statement : Statement) (field value : String) : Statement :=
  { statement with
    assignments := setAssignment field value statement.assignments }

end Statement

/-- An assignment changes the assigned fields only by adding a new one. -/
theorem map_fst_setAssignment
    (field value : String)
    (assignments : List (String × String)) :
    (setAssignment field value assignments).map Prod.fst =
      if field ∈ assignments.map Prod.fst then
        assignments.map Prod.fst
      else
        assignments.map Prod.fst ++ [field] := by
  induction assignments with
  | nil => rfl
  | cons assignment rest inductionHypothesis =>
      rw [setAssignment]
      by_cases sameField : assignment.1 = field
      · simp [sameField]
      · simp only [if_neg sameField, List.map_cons, inductionHypothesis, List.mem_cons,
          Ne.symm sameField, false_or]
        split <;> rfl

end SqlDialect
