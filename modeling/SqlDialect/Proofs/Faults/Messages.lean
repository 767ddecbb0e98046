import SqlDialect.SyntaxFault

/-!
# What messages tell

The message of a fault tells to which clause of a statement the fault belongs
(`SyntaxFault.isAt_message_iff`), and the two messages that name no clause tell the
fault itself (`SyntaxFault.message_eq_iff`).
-/

namespace SqlDialect

/-- The clauses that messages name. -/
inductive ClauseName
  | select
  | update
  | insert
  | conditions
  deriving DecidableEq

/-- A clause as messages name it. -/
def ClauseName.text : ClauseName → String
  | select => "SELECT"
  | update => "UPDATE"
  | insert => "INSERT INTO"
  | conditions => "WHERE"

/-- Whether a message says that something is wrong at a clause. -/
def IsAt (clause : ClauseName) (message : String) : Prop :=
  ("at " ++ clause.text ++ ": ").toList <+: message.toList

instance (clause : ClauseName) (message : String) : Decidable (IsAt clause message) :=
  inferInstanceAs (Decidable (_ <+: _))

/-- The message about the tokens after `AS`, where no label stands for a selected
field. -/
def labelMessage (selected : String) : String :=
  "at SELECT: expected field alias for \"" ++ selected ++ " as\" to SELECT"

/-- The messages that are the same for all texts. -/
def fixedMessages : List String :=
  ["query type cannot be empty",
    "table name cannot be empty",
    "at SELECT: expected field to SELECT",
    "at SELECT: expected comma or FROM",
    "at WHERE: WHERE clause is mandatory for UPDATE & DELETE",
    "at WHERE: expected WHERE",
    "at WHERE: empty WHERE clause",
    "at WHERE: condition with empty left side operand",
    "at WHERE: condition without operator",
    "at WHERE: condition with empty right side operand",
    "at WHERE: expected AND",
    "at UPDATE: expected 'SET'",
    "at UPDATE: expected at least one field to update",
    "at UPDATE: expected '='",
    "at UPDATE: expected quoted value",
    "at UPDATE: expected ','",
    "at INSERT INTO: need at least one row to insert",
    "at INSERT INTO: expected at least one field to insert",
    "at INSERT INTO: expected opening parens",
    "at INSERT INTO: expected comma",
    "at INSERT INTO: expected quoted value",
    "at INSERT INTO: expected comma or closing parens",
    "at INSERT INTO: value count doesn't match field count"]

namespace SyntaxFault

/-- The clause to which a fault belongs, if it belongs to one. -/
def clause? : SyntaxFault → Option ClauseName
  | unknownStatement | missingTable => none
  | missingSelectedField | missingLabel _ | missingFrom => some .select
  | absentWhere | missingWhere | emptyWhere | missingLeftOperand
  | missingComparison | missingRightOperand | missingAnd => some .conditions
  | missingSet | missingAssignedField | missingAssignmentSign
  | missingAssignedValue | missingAssignmentComma => some .update
  | missingRows | wildcardInserted | missingRowStart | missingRowComma
  | missingRowValue | missingValueComma | unequalCounts => some .insert

end SyntaxFault

/-- The beginning of a message tells whether it is about a clause. -/
theorem isAt_append_iff
    {clause : ClauseName}
    {front : String}
    (long : ("at " ++ clause.text ++ ": ").toList.length ≤ front.toList.length)
    (back : String) :
    IsAt clause (front ++ back) ↔ IsAt clause front := by
  have begins : front.toList <+: (front ++ back).toList := by
    rw [String.toList_append]
    exact List.prefix_append _ _
  constructor
  · intro whole
    exact List.prefix_of_prefix_length_le whole begins long
  · intro begun
    exact List.IsPrefix.trans begun begins

/-- A message is about one clause at most. -/
theorem IsAt.unique
    {left right : ClauseName}
    {message : String}
    (isLeft : IsAt left message)
    (isRight : IsAt right message) :
    left = right := by
  rcases List.prefix_or_prefix_of_prefix isLeft isRight with before | before
  · revert before
    cases left <;> cases right <;> decide
  · revert before
    cases left <;> cases right <;> decide

theorem isAt_labelMessage (selected : String) :
    IsAt .select (labelMessage selected) := by
  have whole : labelMessage selected =
      "at SELECT: expected field alias for \"" ++ (selected ++ " as\" to SELECT") :=
    String.append_assoc
  rw [whole, isAt_append_iff (by decide)]
  decide

namespace SyntaxFault

/-- The message of a fault that belongs to a clause begins with the name of it. -/
theorem isAt_message_of_clause?
    {fault : SyntaxFault}
    {clause : ClauseName}
    (isClause : fault.clause? = some clause) :
    IsAt clause fault.message := by
  cases fault with
  | missingLabel selected =>
      cases isClause
      exact isAt_labelMessage selected
  | _ => cases isClause <;> decide

/-- The message of a fault names the clause of the fault and no other. -/
theorem isAt_message_iff (fault : SyntaxFault) (clause : ClauseName) :
    IsAt clause fault.message ↔ fault.clause? = some clause := by
  refine ⟨fun isAt => ?_, isAt_message_of_clause?⟩
  cases own : fault.clause? with
  | some other => rw [IsAt.unique isAt (isAt_message_of_clause? own)]
  | none =>
      revert isAt
      cases fault <;> cases own <;> cases clause <;> decide

/-- The messages without a clause tell the fault. -/
theorem message_eq_iff
    {known : SyntaxFault}
    (noClause : known.clause? = none)
    (fault : SyntaxFault) :
    fault.message = known.message ↔ fault = known := by
  constructor
  · intro same
    have noClauseOfFault : fault.clause? = none := by
      rw [Option.eq_none_iff_forall_ne_some]
      intro clause isClause
      rw [← isAt_message_iff, same, isAt_message_iff, noClause] at isClause
      cases isClause
    cases known <;> cases noClause <;> cases fault <;> cases noClauseOfFault <;>
      revert same <;> decide
  · rintro rfl
    rfl

end SyntaxFault

end SqlDialect
