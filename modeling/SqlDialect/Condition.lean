import SqlDialect.Token

/-!
# Conditions

A condition compares two operands, each of which names a field or is a value.
A value is written in quotes exactly as it is held, so a quote inside it needs
its backslash already.
-/

namespace SqlDialect

/-- A comparison between two operands. -/
inductive Comparison
  | equal
  | notEqual
  | greater
  | less
  | greaterOrEqual
  | lessOrEqual
  deriving DecidableEq

namespace Comparison

/-- All comparisons: equality, then the strict orders, then the weak ones. -/
def all : List Comparison :=
  [equal, notEqual, greater, less, greaterOrEqual, lessOrEqual]

theorem mem_all (comparison : Comparison) : comparison ∈ all := by
  cases comparison <;> decide

/-- A comparison as it is written in a condition. -/
def text : Comparison → String
  | equal => "="
  | notEqual => "!="
  | greater => ">"
  | less => "<"
  | greaterOrEqual => ">="
  | lessOrEqual => "<="

/-- The name of a comparison in data formats. -/
def name : Comparison → String
  | equal => "Eq"
  | notEqual => "Ne"
  | greater => "Gt"
  | less => "Lt"
  | greaterOrEqual => "Gte"
  | lessOrEqual => "Lte"

/-- The token that writes a comparison. -/
def token : Comparison → Token
  | equal => .equal
  | notEqual => .notEqual
  | greater => .greaterThan
  | less => .lessThan
  | greaterOrEqual => .greaterThanOrEqual
  | lessOrEqual => .lessThanOrEqual

@[simp] theorem text_token (comparison : Comparison) :
    comparison.token.text = comparison.text := by
  cases comparison <;> rfl

/-- Comparisons are told apart by their names. -/
theorem name_injective
    {left right : Comparison}
    (sameName : left.name = right.name) :
    left = right := by
  cases left <;> cases right <;> revert sameName <;> decide

end Comparison

/-- An operand of a condition. -/
inductive Operand
  | field (name : String)
  | value (text : String)
  deriving DecidableEq

namespace Operand

/-- Whether an operand names a field. -/
def isField : Operand → Bool
  | field _ => true
  | value _ => false

/-- The name of a field, or the text of a value without its quotes. -/
def content : Operand → String
  | field name => name
  | value text => text

/-- The operand with some content, which is a name or the text of a value. -/
def ofContent (content : String) : Bool → Operand
  | true => field content
  | false => value content

/-- An operand as it is written in a condition. -/
def text : Operand → String
  | field name => name
  | value text => quoted text

/-- An operand is its content and whether that is the name of a field. -/
@[simp] theorem ofContent_content_isField (operand : Operand) :
    ofContent operand.content operand.isField = operand := by
  cases operand <;> rfl

@[simp] theorem content_ofContent (content : String) (isField : Bool) :
    (ofContent content isField).content = content := by
  cases isField <;> rfl

@[simp] theorem isField_ofContent (content : String) (isField : Bool) :
    (ofContent content isField).isField = isField := by
  cases isField <;> rfl

end Operand

/-- A comparison of two operands. -/
structure Condition where
  left : Operand
  comparison : Comparison
  right : Operand
  deriving DecidableEq

namespace Condition

/-- A condition as it is written in a statement. -/
def text (condition : Condition) : String :=
  condition.left.text ++ " " ++ condition.comparison.text ++ " " ++
    condition.right.text

end Condition

namespace Token

/-- The operand that a token stands for. -/
def operand? (token : Token) : Option Operand :=
  match token.field? with
  | some name => some (.field name)
  | none => token.value?.map .value

/-- A token stands for a field if it can, and for a value otherwise. -/
theorem operand?_eq_some_iff
    {token : Token}
    {operand : Operand} :
    token.operand? = some operand ↔
      (∃ name, token.field? = some name ∧ operand = .field name) ∨
        token.field? = none ∧ ∃ value, token.value? = some value ∧ operand = .value value := by
  rw [operand?]
  cases token.field? <;> cases token.value? <;> simp [eq_comm]

theorem operand?_eq_none_iff {token : Token} :
    token.operand? = none ↔ token.field? = none ∧ token.value? = none := by
  rw [operand?]
  cases token.field? <;> simp

/-- The comparison that a token stands for. -/
def comparison? : Token → Option Comparison
  | equal => some .equal
  | notEqual => some .notEqual
  | lessThan => some .less
  | lessThanOrEqual => some .lessOrEqual
  | greaterThan => some .greater
  | greaterThanOrEqual => some .greaterOrEqual
  | _ => none

/-- Only its own token stands for a comparison. -/
theorem comparison?_eq_some_iff
    {token : Token}
    {comparison : Comparison} :
    token.comparison? = some comparison ↔ token = comparison.token := by
  cases token <;> cases comparison <;> simp [comparison?, Comparison.token]

end Token

end SqlDialect
