import Mathlib.Data.List.Chain
import SqlDialect.Proofs.Grammar.Clauses
import SqlDialect.Proofs.Spelling.Text

/-!
# Statements and derivations

A list of tokens is read as a statement exactly if the grammar derives it for
that statement: `ofTokens_eq_ok_iff_isStatement`. The one exception is a list in
which a field that has the name of the wildcard is given a label. Such a label is
refused, but it never comes up in a text, since there the wildcard is a symbol and
no name.
-/

namespace SqlDialect

open Grammar

namespace Grammar

/-! ## Labels of the wildcard -/

/-- Whether the wildcard's name is labelled is a matter of tokens next to each other. -/
theorem not_labelsWildcardName_iff {tokens : List Token} :
    ¬LabelsWildcardName tokens ↔
      tokens.IsChain fun left right =>
        left = .ident wildcardName → right ≠ .keyword .AS := by
  rw [List.isChain_iff_forall_rel_of_append_cons_cons]
  constructor
  · rintro absent left right front back rfl rfl rfl
    exact absent ⟨front, back, by simp⟩
  · rintro apart ⟨front, back, whole⟩
    have split : tokens =
        front ++ .ident wildcardName :: .keyword .AS :: back := by
      rw [← whole, List.append_assoc]
      rfl
    exact apart split rfl rfl

/-- Tokens without AS label nothing. -/
theorem not_labelsWildcardName_of_noLabel
    {tokens : List Token}
    (noLabel : ∀ token ∈ tokens, token ≠ .keyword .AS) :
    ¬LabelsWildcardName tokens := by
  intro labelled
  have member : Token.keyword .AS ∈ tokens := labelled.subset (by simp)
  exact noLabel _ member rfl

/-- A token in front that is not the wildcard's name is not labelled as such. -/
theorem not_labelsWildcardName_cons
    {token : Token}
    {tokens : List Token}
    (notWildcard : token ≠ .ident wildcardName)
    (absent : ¬LabelsWildcardName tokens) :
    ¬LabelsWildcardName (token :: tokens) := by
  rw [not_labelsWildcardName_iff] at absent ⊢
  refine List.isChain_cons.mpr ⟨fun next _ isWildcard => ?_, absent⟩
  exact absurd isWildcard notWildcard

/-- Two runs of tokens next to each other label the wildcard's name only within one of
them, unless the second begins with AS. -/
theorem not_labelsWildcardName_append
    {front back : List Token}
    (frontAbsent : ¬LabelsWildcardName front)
    (backAbsent : ¬LabelsWildcardName back)
    (noLabel : back.head? ≠ some (.keyword .AS)) :
    ¬LabelsWildcardName (front ++ back) := by
  rw [not_labelsWildcardName_iff] at frontAbsent backAbsent ⊢
  refine List.isChain_append.mpr ⟨frontAbsent, backAbsent, ?_⟩
  rintro left - right first - rfl
  exact noLabel first

/-! ## Tokens that are no label -/

theorem Name.noLabel
    {name : String}
    {tokens : List Token}
    (named : Name name tokens) :
    ∀ token ∈ tokens, token ≠ .keyword .AS := by
  cases named
  simp

theorem Value.noLabel
    {value : String}
    {tokens : List Token}
    (valued : Value value tokens) :
    ∀ token ∈ tokens, token ≠ .keyword .AS := by
  cases valued
  simp

theorem IsOperand.noLabel
    {operand : Operand}
    {tokens : List Token}
    (derived : IsOperand operand tokens) :
    ∀ token ∈ tokens, token ≠ .keyword .AS := by
  cases derived with
  | field named => exact named.noLabel
  | value valued => exact valued.noLabel

/-- No AS stands among conditions. -/
theorem IsConditions.noLabel
    {conditions : List Condition}
    {tokens : List Token}
    (derived : IsConditions conditions tokens) :
    ∀ token ∈ tokens, token ≠ .keyword .AS := by
  refine Separated.forall_mem derived (fun compared => ?_) (by simp)
  cases compared with
  | @compare _ _ comparison _ _ left right =>
      refine List.forall_mem_append.mpr ⟨left.noLabel, ?_⟩
      refine List.forall_mem_cons.mpr ⟨?_, right.noLabel⟩
      cases comparison <;> simp [Comparison.token]

theorem IsOptionalWhere.noLabel
    {conditions : List Condition}
    {tokens : List Token}
    (derived : IsOptionalWhere conditions tokens) :
    ∀ token ∈ tokens, token ≠ .keyword .AS := by
  cases derived with
  | absent => simp
  | present derived =>
      exact List.forall_mem_cons.mpr ⟨by simp, derived.noLabel⟩

/-- An item that gives the wildcard's name no label has none for it among its tokens. -/
theorem IsItem.not_labelsWildcardName
    {item : Clause.SelectedItem}
    {tokens : List Token}
    (derived : IsItem item tokens)
    (labels : item.LabelsNoWildcard) :
    ¬LabelsWildcardName tokens := by
  cases derived with
  | wildcard => exact not_labelsWildcardName_of_noLabel (by simp)
  | field named => exact not_labelsWildcardName_of_noLabel named.noLabel
  | labelled named labelNamed =>
      have labelAbsent := not_labelsWildcardName_of_noLabel labelNamed.noLabel
      cases named
      refine not_labelsWildcardName_cons ?_
        (not_labelsWildcardName_cons (by simp) labelAbsent)
      rintro ⟨⟩
      exact labels _ rfl

/-- No item labels the wildcard's name exactly if the tokens do not. -/
theorem labelsNoWildcard_iff
    {items : List Clause.SelectedItem}
    {tokens : List Token}
    (derived : Separated [.comma] IsItem items tokens) :
    (∀ item ∈ items, item.LabelsNoWildcard) ↔ ¬LabelsWildcardName tokens := by
  constructor
  · intro labels
    induction derived with
    | single derived =>
        exact derived.not_labelsWildcardName (List.forall_mem_singleton.mp labels)
    | cons derived _ inductionHypothesis =>
        obtain ⟨first, others⟩ := List.forall_mem_cons.mp labels
        have othersAbsent := inductionHypothesis others
        refine not_labelsWildcardName_append (derived.not_labelsWildcardName first)
          (not_labelsWildcardName_cons (by simp) othersAbsent) ?_
        simp
  · rintro absent item member label rfl
    obtain ⟨itemTokens, itemDerived, inTokens⟩ := derived.infix_of_mem member
    apply absent
    cases itemDerived with
    | labelled named labelNamed =>
        cases named
        exact (List.prefix_append [_, _] _).isInfix.trans inTokens

/-- A selection labels the wildcard's name exactly if its items do. -/
theorem labelsWildcardName_selection_iff
    {conditions : List Condition}
    {table : String}
    {itemTokens tableTokens whereTokens : List Token}
    (tableDerived : Value table tableTokens)
    (whereDerived : IsOptionalWhere conditions whereTokens) :
    LabelsWildcardName
        (.keyword .SELECT ::
          (itemTokens ++ .keyword .FROM :: (tableTokens ++ whereTokens))) ↔
      LabelsWildcardName itemTokens := by
  constructor
  · contrapose
    intro absent
    have afterTable : ∀ token ∈ tableTokens ++ whereTokens, token ≠ .keyword .AS :=
      List.forall_mem_append.mpr ⟨tableDerived.noLabel, whereDerived.noLabel⟩
    refine not_labelsWildcardName_cons (by simp)
      (not_labelsWildcardName_append absent ?_ (by simp))
    exact not_labelsWildcardName_of_noLabel
      (List.forall_mem_cons.mpr ⟨by simp, afterTable⟩)
  · intro labelled
    apply List.IsInfix.trans labelled
    exact ((List.prefix_append _ _).isInfix).trans (List.suffix_cons _ _).isInfix

/-- No AS stands among assignments. -/
theorem noLabel_of_assignments
    {written : List (String × String)}
    {tokens : List Token}
    (derived : Separated [.comma] IsAssignment written tokens) :
    ∀ token ∈ tokens, token ≠ .keyword .AS := by
  refine derived.forall_mem (fun assigned => ?_) (by simp)
  cases assigned with
  | assign named valued =>
      refine List.forall_mem_append.mpr ⟨named.noLabel, ?_⟩
      exact List.forall_mem_cons.mpr ⟨by simp, valued.noLabel⟩

/-- No AS stands among rows. -/
theorem noLabel_of_rows
    {width : Nat}
    {rows : List (List String)}
    {tokens : List Token}
    (derived : Separated [.comma] (IsRow width) rows tokens) :
    ∀ token ∈ tokens, token ≠ .keyword .AS := by
  refine derived.forall_mem (fun isRow => ?_) (by simp)
  cases isRow with
  | row values =>
      have noLabel := values.forall_mem (fun valued => valued.noLabel) (by simp)
      refine List.forall_mem_cons.mpr ⟨by simp, ?_⟩
      exact List.forall_mem_append.mpr ⟨noLabel, by simp⟩

/-- Only selections have labels. -/
theorem IsStatement.noLabel
    {statement : Statement}
    {tokens : List Token}
    (derived : IsStatement statement tokens)
    (notSelection : statement.kind ≠ .select) :
    ∀ token ∈ tokens, token ≠ .keyword .AS := by
  cases derived with
  | select => exact absurd rfl notSelection
  | update tableDerived assignmentsDerived conditionsDerived =>
      have assignments := noLabel_of_assignments assignmentsDerived
      simp only [List.forall_mem_cons, List.forall_mem_append]
      exact ⟨by simp, tableDerived.noLabel, by simp, assignments, by simp,
        conditionsDerived.noLabel⟩
  | delete tableDerived conditionsDerived =>
      simp only [List.forall_mem_cons, List.forall_mem_append]
      exact ⟨by simp, by simp, tableDerived.noLabel, by simp, conditionsDerived.noLabel⟩
  | insert tableDerived fieldsDerived rowsDerived =>
      have fields := fieldsDerived.forall_mem (fun named => named.noLabel) (by simp)
      simp only [List.forall_mem_cons, List.forall_mem_append]
      exact ⟨by simp, by simp, tableDerived.noLabel, by simp, fields, by simp, by simp,
        noLabel_of_rows rowsDerived⟩

end Grammar

/-! ## Reading a statement -/

/-- What is read as a statement is derived for it, and labels no field with the
wildcard's name. -/
theorem isStatement_of_run
    {tokens rest : List Token}
    {statement : Statement}
    (read : Clause.statement.run tokens = .ok (statement, rest)) :
    IsStatement statement tokens ∧ ¬LabelsWildcardName tokens := by
  simp only [StateT.run] at read
  revert read
  fun_cases Clause.statement tokens with
  | case1 tokens =>
      intro read
      obtain ⟨items, table, conditions, itemTokens, whereTokens, rfl, itemsDerived,
        labels, whereDerived, rfl, -⟩ := Clause.run_selection_eq_ok_iff.mp read
      refine ⟨.select itemsDerived .literal whereDerived (isLabelling_iff.mpr rfl), ?_⟩
      intro labelled
      exact (labelsNoWildcard_iff itemsDerived).mp labels
        ((labelsWildcardName_selection_iff .literal whereDerived).mp labelled)
  | case2 tokens =>
      intro read
      obtain ⟨table, written, conditions, assignmentTokens, conditionTokens, rfl,
        assignmentsDerived, conditionsDerived, rfl, -⟩ :=
        Clause.run_update_eq_ok_iff.mp read
      have tableDerived : Value table [.literal table] := .literal
      have derived := IsStatement.update tableDerived assignmentsDerived
        conditionsDerived (isCollected_iff.mpr rfl)
      exact ⟨derived, not_labelsWildcardName_of_noLabel (derived.noLabel (by simp))⟩
  | case3 tokens =>
      intro read
      obtain ⟨table, conditions, conditionTokens, rfl, conditionsDerived, rfl, -⟩ :=
        Clause.run_deletion_eq_ok_iff.mp read
      have tableDerived : Value table [.literal table] := .literal
      have derived := IsStatement.delete tableDerived conditionsDerived
      exact ⟨derived, not_labelsWildcardName_of_noLabel (derived.noLabel (by simp))⟩
  | case4 tokens =>
      intro read
      obtain ⟨table, fields, rows, fieldTokens, rowTokens, rfl, fieldsDerived,
        rowsDerived, rfl, -⟩ := Clause.run_insertion_eq_ok_iff.mp read
      have tableDerived : Value table [.literal table] := .literal
      have derived := IsStatement.insert tableDerived fieldsDerived rowsDerived
      exact ⟨derived, not_labelsWildcardName_of_noLabel (derived.noLabel (by simp))⟩
  | case5 => simp

/-- What is derived for a statement is read as it. -/
theorem run_of_isStatement
    {tokens : List Token}
    {statement : Statement}
    (derived : IsStatement statement tokens)
    (absent : ¬LabelsWildcardName tokens) :
    Clause.statement.run tokens = .ok (statement, []) := by
  cases derived with
  | @select items labels table conditions itemTokens _ whereTokens itemsDerived
      tableDerived whereDerived labelling =>
      rw [labelsWildcardName_selection_iff tableDerived whereDerived] at absent
      cases tableDerived
      obtain rfl := isLabelling_iff.mp labelling
      exact Clause.run_selection_eq_ok_iff.mpr
        ⟨items, table, conditions, itemTokens, whereTokens, rfl, itemsDerived,
          (labelsNoWildcard_iff itemsDerived).mpr absent, whereDerived, rfl, rfl⟩
  | @update table written _ conditions _ assignmentTokens conditionTokens tableDerived
      assignmentsDerived conditionsDerived isCollected =>
      cases tableDerived
      obtain rfl := isCollected_iff.mp isCollected
      exact Clause.run_update_eq_ok_iff.mpr
        ⟨table, written, conditions, assignmentTokens, conditionTokens, rfl,
          assignmentsDerived, conditionsDerived, rfl, rfl⟩
  | @delete table conditions _ conditionTokens tableDerived conditionsDerived =>
      cases tableDerived
      exact Clause.run_deletion_eq_ok_iff.mpr
        ⟨table, conditions, conditionTokens, rfl, conditionsDerived, rfl, rfl⟩
  | @insert table fields rows _ fieldTokens rowTokens tableDerived fieldsDerived
      rowsDerived =>
      cases tableDerived
      exact Clause.run_insertion_eq_ok_iff.mpr
        ⟨table, fields, rows, fieldTokens, rowTokens, rfl, fieldsDerived, rowsDerived,
          rfl, rfl⟩

namespace Statement

/-- What tokens are read as is derived from them. -/
theorem isStatement_of_ofTokens
    {tokens : List Token}
    {statement : Statement}
    (read : ofTokens tokens = .ok statement) :
    IsStatement statement tokens ∧ ¬LabelsWildcardName tokens := by
  unfold ofTokens at read
  cases run : Clause.statement.run tokens with
  | error fault =>
      rw [run] at read
      cases read
  | ok result =>
      obtain ⟨whole, rest⟩ := result
      rw [run] at read
      cases read
      exact isStatement_of_run run

/-- Tokens are read as what is derived from them. -/
theorem ofTokens_of_isStatement
    {tokens : List Token}
    {statement : Statement}
    (derived : IsStatement statement tokens)
    (absent : ¬LabelsWildcardName tokens) :
    ofTokens tokens = .ok statement := by
  rw [ofTokens, run_of_isStatement derived absent]
  rfl

end Statement

/-! ## Tokens of a text -/

/-- No text is read as the wildcard's name for a field, since an asterisk is no part of a
word. -/
theorem not_isBareWord_wildcardName : ¬IsBareWord wildcardName.toList := by
  intro bare
  exact absurd (bare.noDelimiter '*' (by decide)) (by decide)

/-- No text has a name that is the wildcard's. -/
theorem ident_wildcardName_not_mem_tokensOf (text : String) :
    .ident wildcardName ∉ tokensOf text := by
  intro member
  obtain ⟨letters, spelled⟩ := allSpelled_tokensOf text _ member
  exact not_isBareWord_wildcardName (isBareWord_of_isSpelledBy spelled (by decide))

/-- No text labels the wildcard's name. -/
theorem not_labelsWildcardName_tokensOf (text : String) :
    ¬LabelsWildcardName (tokensOf text) := by
  intro labelled
  exact ident_wildcardName_not_mem_tokensOf text (labelled.subset List.mem_cons_self)

/-- Tokens are read as the statements that the grammar derives for them, and as no
others, except that a label of the wildcard's name is refused. The tokens of a text
are read as the grammar derives them without exception. -/
theorem ofTokens_eq_ok_iff_isStatement :
    (∀ tokens statement,
      Statement.ofTokens tokens = .ok statement ↔
        IsStatement statement tokens ∧ ¬LabelsWildcardName tokens) ∧
      ∀ text statement,
        Statement.ofText text = .ok statement ↔
          IsStatement statement (tokensOf text) := by
  refine ⟨fun tokens statement => ⟨?_, ?_⟩, fun text statement => ⟨?_, ?_⟩⟩
  · exact Statement.isStatement_of_ofTokens
  · exact fun derived => Statement.ofTokens_of_isStatement derived.1 derived.2
  · exact fun read => (Statement.isStatement_of_ofTokens read).1
  · intro derived
    have absent := not_labelsWildcardName_tokensOf text
    exact Statement.ofTokens_of_isStatement derived absent

/-- The grammar by itself lets a field that has the name of the wildcard be labelled, so
it derives more than is read. -/
theorem not_forall_ofTokens_iff_isStatement :
    ¬∀ tokens statement,
      Statement.ofTokens tokens = .ok statement ↔ IsStatement statement tokens := by
  intro alike
  have labelled : Separated [.comma] IsItem [.field wildcardName (some "x")]
      [.ident wildcardName, .keyword .AS, .ident "x"] :=
    .single (IsItem.labelled (.ident (by decide)) (.ident (by decide)))
  have table : Value "t" [.literal "t"] := .literal
  have derived := IsStatement.select labelled table .absent (isLabelling_iff.mpr rfl)
  have refused : Statement.ofTokens
      [.keyword .SELECT, .ident wildcardName, .keyword .AS, .ident "x", .keyword .FROM,
        .literal "t"] = .error (.missingLabel wildcardName) := by
    decide +kernel
  have read := (alike _ _).mpr derived
  cases refused.symm.trans read

end SqlDialect
