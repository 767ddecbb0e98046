import SqlDialect.Proofs.Canonical.RoundTrip
import SqlDialect.Proofs.Faults.OpenQuote

/-!
# Appending to the text of a statement

A text that is read as a statement can be gone on with: what is appended in the
canonical way is read as one more condition, as the first one, or as one more row, and
the rest of the statement stays as it is (`Statement.ofText_append`).

The text itself may be spelled in any way. It holds no open quote, so what ends every
token ends its last one too (`Statement.readsAs_of_ofText`). Then the grammar tells what
the longer list of tokens is derived for.
-/

namespace SqlDialect

open Grammar

/-! ## Longer derivations -/

namespace Grammar

/-- One more item after a separator. -/
theorem Separated.concat
    {separator : List Token}
    {Derives : α → List Token → Prop}
    {items : List α}
    {item : α}
    {tokens itemTokens : List Token}
    (separated : Separated separator Derives items tokens)
    (derived : Derives item itemTokens) :
    Separated separator Derives (items ++ [item])
      (tokens ++ (separator ++ itemTokens)) := by
  induction separated with
  | single first => exact .cons first (.single derived)
  | cons first _ inductionHypothesis =>
      rw [List.append_assoc, List.append_assoc]
      exact .cons first inductionHypothesis

section

variable
  {statement : Statement}
  {tokens : List Token}
  (derived : IsStatement statement tokens)

include derived

/-- One more condition after `AND`. -/
theorem IsStatement.append_condition
    (someConditions : statement.conditions ≠ [])
    {condition : Condition}
    {conditionTokens : List Token}
    (compared : IsCondition condition conditionTokens) :
    IsStatement
      { statement with conditions := statement.conditions ++ [condition] }
      (tokens ++ (.keyword .AND :: conditionTokens)) := by
  cases derived with
  | select itemsDerived tableDerived whereDerived labelling =>
      obtain ⟨whereTokens, rfl, conditionsDerived⟩ := whereDerived.of_ne_nil someConditions
      have longer := IsStatement.select itemsDerived tableDerived
        (.present (Separated.concat conditionsDerived compared)) labelling
      simpa using longer
  | update tableDerived assignmentsDerived conditionsDerived isCollected =>
      have longer := IsStatement.update tableDerived assignmentsDerived
        (Separated.concat conditionsDerived compared) isCollected
      simpa using longer
  | delete tableDerived conditionsDerived =>
      have longer := IsStatement.delete tableDerived
        (Separated.concat conditionsDerived compared)
      simpa using longer
  | insert => exact absurd rfl someConditions

/-- The first condition of a selection. -/
theorem IsStatement.append_firstCondition
    (isSelection : statement.kind = .select)
    (noConditions : statement.conditions = [])
    {condition : Condition}
    {conditionTokens : List Token}
    (compared : IsCondition condition conditionTokens) :
    IsStatement { statement with conditions := [condition] }
      (tokens ++ (.keyword .WHERE :: conditionTokens)) := by
  cases derived with
  | select itemsDerived tableDerived whereDerived labelling =>
      cases whereDerived with
      | absent =>
          have longer := IsStatement.select itemsDerived tableDerived
            (.present (Separated.single compared)) labelling
          simpa using longer
      | present conditionsDerived => exact absurd noConditions conditionsDerived.ne_nil
  | update | delete | insert => cases isSelection

theorem IsStatement.fields_ne_nil
    (isInsertion : statement.kind = .insert) :
    statement.fields ≠ [] := by
  cases derived with
  | insert _ fieldsDerived => exact fieldsDerived.ne_nil
  | select | update | delete => cases isInsertion

/-- One more row of an insertion. -/
theorem IsStatement.append_row
    (isInsertion : statement.kind = .insert)
    {row : List String}
    {rowTokens : List Token}
    (rowDerived : IsRow statement.fields.length row rowTokens) :
    IsStatement { statement with rows := statement.rows ++ [row] }
      (tokens ++ (.comma :: rowTokens)) := by
  cases derived with
  | insert tableDerived fieldsDerived rowsDerived =>
      have longer := IsStatement.insert tableDerived fieldsDerived
        (rowsDerived.concat rowDerived)
      simpa using longer
  | select | update | delete => cases isInsertion

end

end Grammar

/-! ## Longer texts -/

namespace Statement

section

variable
  {text : String}
  {statement : Statement}
  (read : ofText text = .ok statement)

include read

/-- The text of a statement is read before every text that ends a token. -/
theorem readsAs_of_ofText : ReadsAs text (tokensOf text) := by
  intro rest ends
  have closed := (isStatement_of_ofTokens read).1.allClosed
  refine scanAll_append_of_endsBefore fun token member => ?_
  exact Token.endsBefore_of_endsToken (closed token member) ends

/-- A text goes on to be what is derived from its tokens and those of what is
appended. -/
theorem ofText_append_of_isStatement
    {separator fragment : String}
    {separatorTokens fragmentTokens : List Token}
    {longer : Statement}
    (separates : Separates separator separatorTokens)
    (reads : ReadsAs fragment fragmentTokens)
    (derived : IsStatement longer
      (tokensOf text ++ (separatorTokens ++ fragmentTokens))) :
    ofText (text ++ separator ++ fragment) = .ok longer := by
  have opens := (readsAs_of_ofText read).append_separates separates
  rw [← List.append_assoc] at derived
  exact ofText_of_readsAs (opens.append_readsAs reads) derived

end

/-- The text of a statement with conditions can be gone on with one more of them, that
of a selection without conditions with its first one, and that of an insertion with one
more row. Nothing else of the statement changes. -/
theorem ofText_append
    {text : String}
    {statement : Statement}
    (read : ofText text = .ok statement) :
    (statement.conditions ≠ [] →
      ∀ condition : Condition, condition.IsWritable →
        ofText (text ++ " AND " ++ condition.text) =
          .ok { statement with conditions := statement.conditions ++ [condition] }) ∧
    (statement.kind = .select → statement.conditions = [] →
      ∀ condition : Condition, condition.IsWritable →
        ofText (text ++ " WHERE " ++ condition.text) =
          .ok { statement with conditions := [condition] }) ∧
    (statement.kind = .insert →
      ∀ row : List String, row.length = statement.fields.length →
        (∀ value ∈ row, IsRawLiteral value.toList) →
        ofText (text ++ ", " ++ rowText row) =
          .ok { statement with rows := statement.rows ++ [row] }) := by
  have derived := (isStatement_of_ofTokens read).1
  refine ⟨?_, ?_, ?_⟩
  · intro someConditions condition writable
    obtain ⟨conditionTokens, reads, compared⟩ := writes_condition writable
    exact ofText_append_of_isStatement read (separates_keyword .AND) reads
      (derived.append_condition someConditions compared)
  · intro isSelection noConditions condition writable
    obtain ⟨conditionTokens, reads, compared⟩ := writes_condition writable
    exact ofText_append_of_isStatement read (separates_keyword .WHERE) reads
      (derived.append_firstCondition isSelection noConditions compared)
  · intro isInsertion row equalCounts raw
    have hasFields : statement.fields.length ≠ 0 :=
      mt List.length_eq_zero_iff.mp (derived.fields_ne_nil isInsertion)
    obtain ⟨rowTokens, reads, rowDerived⟩ := writes_row hasFields equalCounts raw
    exact ofText_append_of_isStatement read separates_comma reads
      (derived.append_row isInsertion rowDerived)

/-- A comparison of a name that ends in an exclamation mark with a value that has a
quote. -/
def markedComparison : Condition :=
  ⟨.field "a!", .notEqual, .value "it\\'s"⟩

/-- Texts that end in a name, in a literal and in a parenthesis, with no blank where none
has to be. -/
theorem ofText_append_unspaced :
    (∃ statement,
      ofText "delete from't'where a=b" = .ok statement ∧
        statement.conditions ≠ [] ∧ markedComparison.IsWritable ∧
        ofText ("delete from't'where a=b" ++ " AND " ++ markedComparison.text) =
          .ok { statement with
            conditions := statement.conditions ++ [markedComparison] }) ∧
    (∃ statement,
      ofText "select*from't'" = .ok statement ∧
        statement.kind = .select ∧ statement.conditions = [] ∧
        ofText ("select*from't'" ++ " WHERE " ++ markedComparison.text) =
          .ok { statement with conditions := [markedComparison] }) ∧
    ∃ statement,
      ofText "insert into't'(a,b)values('1','2')" = .ok statement ∧
        statement.kind = .insert ∧ ["", "3"].length = statement.fields.length ∧
        (∀ value ∈ ["", "3"], IsRawLiteral value.toList) ∧
        ofText ("insert into't'(a,b)values('1','2')" ++ ", " ++ rowText ["", "3"]) =
          .ok { statement with rows := statement.rows ++ [["", "3"]] } := by
  have writable : markedComparison.IsWritable := by decide
  have raw : ∀ value ∈ ["", "3"], IsRawLiteral value.toList := by decide
  have deletion : ofText "delete from't'where a=b" =
      .ok { ofTable .delete "t" with
        conditions := [⟨.field "a", .equal, .field "b"⟩] } := by
    decide +kernel
  have selection : ofText "select*from't'" =
      .ok { ofTable .select "t" with fields := ["*"] } := by
    decide +kernel
  have insertion : ofText "insert into't'(a,b)values('1','2')" =
      .ok { ofTable .insert "t" with
        fields := ["a", "b"]
        rows := [["1", "2"]] } := by
    decide +kernel
  have someConditions : [Condition.mk (.field "a") .equal (.field "b")] ≠ [] :=
    List.cons_ne_nil _ _
  exact ⟨
    ⟨_, deletion, someConditions, writable,
      (ofText_append deletion).1 someConditions _ writable⟩,
    ⟨_, selection, rfl, rfl, (ofText_append selection).2.1 rfl rfl _ writable⟩,
    ⟨_, insertion, rfl, rfl, raw, (ofText_append insertion).2.2 rfl _ rfl raw⟩⟩

end Statement

end SqlDialect
