import SqlDialect.Clause.Insertion
import SqlDialect.Clause.Update
import SqlDialect.Token.Scan

/-!
# Walks along tokens

A statement can also be read with an index: the tokens stay where they are, and a
position says how many of them have been passed. A walk may look at the token at its
position or pass it, and it may look at all tokens from its position on. The latter is
out of bounds, and the end of the walk, if the position is beyond the last token.

A loop goes round as often as its body asks for it. How often that may be is given from
outside, and a walk that goes round more often is lost and has no outcome. A walk leaves
a trail, so that it can be told afterwards where it has been. It keeps the trail, like
its position, when it fails.
-/

namespace SqlDialect

/-- The loops of a walk. -/
inductive WalkLoop
  | selectedItems
  | assignments
  | insertedFields
  | rows
  | rowValues
  | conditions
  deriving DecidableEq

/-- What a walk records: that it has passed a token, that it looks at all tokens from
its position on, or that it goes round a loop again, and where it was when it last
did. -/
inductive WalkEvent
  | passed
  | lookedAhead
  | wentRound (loop : WalkLoop) (before : Nat)
  deriving DecidableEq

/-- A record in a trail: what happened, and the position then. -/
structure TrailMark where
  event : WalkEvent
  position : Nat
  deriving DecidableEq

/-- Where a walk is, and what has happened, in order. -/
structure WalkState where
  position : Nat
  trail : List TrailMark
  deriving DecidableEq

/-- Why a walk fails: it looks ahead from beyond the last token, or the tokens are no
statement. -/
inductive WalkFault
  | outOfBounds (position : Nat)
  | refused (fault : SyntaxFault)
  deriving DecidableEq

/-- The tokens along which a walk goes, and how many rounds each of its loops may take. -/
structure WalkCourse where
  tokens : List Token
  rounds : Nat

/-- A walk along some tokens, which has no outcome if it is lost in a loop. -/
abbrev Walk := ReaderT WalkCourse (ExceptT WalkFault (StateT WalkState Option))

namespace Walk

/-! ## Steps -/

/-- Record what happens at the position. -/
def record (event : WalkEvent) : Walk Unit :=
  modify fun state => { state with trail := state.trail ++ [⟨event, state.position⟩] }

/-- Refuse the tokens. -/
def refuse (fault : SyntaxFault) : Walk α :=
  throw (.refused fault)

/-- The token at the position, if there is one. -/
def peek : Walk (Option Token) := do
  return (← read).tokens[(← get).position]?

/-- Pass a token. -/
def pass : Walk Unit := do
  modify fun state => { state with position := state.position + 1 }
  record .passed

/-- The token at the position, which is passed if there is one. -/
def next : Walk (Option Token) := do
  match ← peek with
  | none => return none
  | some token =>
      pass
      return some token

/-- What the token at the position stands for. It is passed if it stands for
something. -/
def nextMeaning (meaning : Token → Option α) : Walk (Option α) := do
  match (← peek).bind meaning with
  | none => return none
  | some value =>
      pass
      return some value

/-- Whether the token at the position is the given one, which is passed then. -/
def nextIs (expected : Token) : Walk Bool := do
  let found ← nextMeaning fun token => if token = expected then some () else none
  return found.isSome

/-- An operand, which is a field or else a literal. -/
def nextOperand : Walk (Option Operand) := do
  match ← nextMeaning Token.field? with
  | some name => return some (.field name)
  | none => return (← nextMeaning Token.value?).map .value

/-- All tokens from the position on. -/
def lookAhead : Walk (List Token) := do
  record .lookedAhead
  let position := (← get).position
  let tokens := (← read).tokens
  if tokens.length < position then
    throw (.outOfBounds position)
  else
    return tokens.drop position

/-- What an attempt finds, which has to be something. -/
def demand (attempt : Walk (Option α)) (fault : SyntaxFault) : Walk α := do
  match ← attempt with
  | some value => return value
  | none => refuse fault

/-- Pass the token at the position, which has to be the given one. -/
def demandNext (expected : Token) (fault : SyntaxFault) : Walk Unit := do
  if ← nextIs expected then return () else refuse fault

/-- Refuse the tokens if there are no more. -/
def demandMore (fault : SyntaxFault) : Walk Unit := do
  if (← peek).isSome then return () else refuse fault

/-- Go round a loop from some state, as long as its body gives a state to go on with and
there are rounds left. -/
def loopWithin (name : WalkLoop) (body : σ → Walk (σ ⊕ α)) : Nat → σ → Walk α
  | 0, _ => fun _ _ => none
  | rounds + 1, state => do
      let before := (← get).position
      match ← body state with
      | .inr value => return value
      | .inl later =>
          record (.wentRound name before)
          loopWithin name body rounds later

/-- Go round a loop from some state, as long as its body gives a state to go on with. -/
def loop (name : WalkLoop) (body : σ → Walk (σ ⊕ α)) (state : σ) : Walk α := do
  loopWithin name body (← read).rounds state

/-! ## Conditions -/

def condition : Walk Condition := do
  let left ← demand nextOperand .missingLeftOperand
  let comparison ← demand (nextMeaning Token.comparison?) .missingComparison
  let right ← demand nextOperand .missingRightOperand
  return ⟨left, comparison, right⟩

/-- One more condition, and what follows it. -/
def conditionRound (found : List Condition) :
    Walk (List Condition ⊕ List Condition) := do
  let condition ← condition
  match ← next with
  | none => return .inr (found ++ [condition])
  | some (.keyword .AND) => return .inl (found ++ [condition])
  | some _ => refuse .missingAnd

/-- The conditions after the word `WHERE`, up to the end. -/
def conditions : Walk (List Condition) := do
  demandMore .emptyWhere
  loop .conditions conditionRound []

def whereClause : Walk (List Condition) := do
  demandNext (.keyword .WHERE) .missingWhere
  conditions

/-- Refuse the tokens unless the word `WHERE` is still to come. -/
def demandWhere : Walk Unit := do
  let ahead ← lookAhead
  if .keyword .WHERE ∈ ahead then return () else refuse .absentWhere

/-! ## Selections -/

def table : Walk String :=
  demand (nextMeaning Token.value?) .missingTable

/-- The name of an item of a selection. -/
def selectedName : Walk String := do
  if ← nextIs .asterisk then
    return wildcardName
  else
    demand (nextMeaning Token.field?) .missingSelectedField

/-- The label of a selected item after the word `AS`, which the wildcard cannot have. -/
def selectedLabel (name : String) : Walk String := do
  demandMore .missingTable
  let label ← demand (nextMeaning Token.field?) (.missingLabel name)
  if name = wildcardName then refuse (.missingLabel name) else return label

/-- Add the label of a selected item to a statement, if there is one. -/
def labelSelected (statement : Statement) (name : String) : Walk Statement := do
  if ← nextIs (.keyword .AS) then
    let label ← selectedLabel name
    return { statement with labels := statement.labels.insert name label }
  else
    return statement

/-- Add one more selected item to a statement. -/
def selectedItem (statement : Statement) : Walk Statement := do
  demandMore .missingTable
  let name ← selectedName
  let labelled ← labelSelected statement name
  return { labelled with fields := labelled.fields ++ [name] }

/-- One more selected item, and what follows it. -/
def selectedItemRound (statement : Statement) : Walk (Statement ⊕ Statement) := do
  let extended ← selectedItem statement
  match ← next with
  | some .comma => return .inl extended
  | some (.keyword .FROM) => return .inr extended
  | some _ => refuse .missingFrom
  | none => refuse .missingTable

/-- A selection, after the word `SELECT`. -/
def selection : Walk Statement := do
  let statement ← loop .selectedItems selectedItemRound (.ofTable .select "")
  let table ← table
  if (← peek).isSome then
    let conditions ← whereClause
    return { statement with table := table, conditions := conditions }
  else
    return { statement with table := table }

/-! ## Updates and deletions -/

/-- One more assignment, and what follows it. -/
def assignmentRound (statement : Statement) : Walk (Statement ⊕ Statement) := do
  let field ← demand (nextMeaning Token.field?) .missingAssignedField
  demandNext .equal .missingAssignmentSign
  let value ← demand (nextMeaning Token.value?) .missingAssignedValue
  let extended := statement.assign field value
  match ← next with
  | some .comma => return .inl extended
  | some (.keyword .WHERE) => return .inr extended
  | _ => refuse .missingAssignmentComma

/-- An update, after the word `UPDATE`. -/
def update : Walk Statement := do
  let table ← table
  demandWhere
  demandNext (.keyword .SET) .missingSet
  let statement ← loop .assignments assignmentRound (.ofTable .update table)
  let conditions ← conditions
  return { statement with conditions := conditions }

/-- A deletion, after the words `DELETE FROM`. -/
def deletion : Walk Statement := do
  let table ← table
  demandWhere
  let conditions ← whereClause
  return { Statement.ofTable .delete table with conditions := conditions }

/-! ## Insertions -/

/-- Refuse the tokens if a wildcard stands before the next closing parenthesis. -/
def refuseWildcard : Walk Unit := do
  if Clause.wildcardBeforeClose (← lookAhead) then refuse .wildcardInserted else return ()

/-- One more field, and what follows it. -/
def insertedFieldRound (statement : Statement) : Walk (Statement ⊕ Statement) := do
  let field ← demand (nextMeaning Token.field?) .missingRows
  let extended := { statement with fields := statement.fields ++ [field] }
  match ← next with
  | some .comma => return .inl extended
  | some .closeParen => return .inr extended
  | _ => refuse .missingRows

/-- One more value of a row, and what follows it; at the end of the row, also whether
the row is closed. -/
def rowValueRound (values : List String) :
    Walk (List String ⊕ (List String × Bool)) := do
  match ← next with
  | some .closeParen =>
      if values.isEmpty then return .inr (values, true) else refuse .missingRowValue
  | some (.literal value) =>
      match ← next with
      | some .comma => return .inl (values ++ [value])
      | some .closeParen => return .inr (values ++ [value], true)
      | some _ => refuse .missingValueComma
      | none => return .inr (values ++ [value], false)
  | some _ => refuse .missingRowValue
  | none => return .inr (values, false)

/-- A row of some width, after its opening parenthesis. -/
def row (width : Nat) : Walk (List String) := do
  let (values, closed) ← loop .rowValues rowValueRound []
  if values.length = width then
    if closed then return values else refuse .missingValueComma
  else
    refuse .unequalCounts

/-- One more row, and what follows it. -/
def rowRound (statement : Statement) : Walk (Statement ⊕ Statement) := do
  let row ← row statement.fields.length
  let extended := { statement with rows := statement.rows ++ [row] }
  match ← next with
  | none => return .inr extended
  | some .comma =>
      if ← nextIs .openParen then return .inl extended else refuse .missingRowStart
  | some _ => refuse .missingRowComma

/-- An insertion, after the words `INSERT INTO`. -/
def insertion : Walk Statement := do
  let table ← table
  demandNext .openParen .missingRows
  refuseWildcard
  let statement ← loop .insertedFields insertedFieldRound (.ofTable .insert table)
  demandNext (.keyword .VALUES) .missingRows
  demandNext .openParen .missingRows
  loop .rows rowRound statement

/-! ## Statements -/

/-- A whole statement. -/
def statement : Walk Statement := do
  match ← next with
  | some (.keyword .SELECT) => selection
  | some (.keyword .UPDATE) => update
  | some (.keyword .DELETE) =>
      if ← nextIs (.keyword .FROM) then deletion else refuse .unknownStatement
  | some (.keyword .INSERT) =>
      if ← nextIs (.keyword .INTO) then insertion else refuse .unknownStatement
  | _ => refuse .unknownStatement

/-- The outcome of a walk from the first token of a course on, if it has one. -/
def outcome?
    (walk : Walk α)
    (course : WalkCourse) : Option (Except WalkFault α × WalkState) :=
  walk course ⟨0, []⟩

end Walk

end SqlDialect
