import Mathlib.Data.List.Infix
import SqlDialect.Statement.Reading

/-!
# The grammar of statements

Which lists of tokens are statements, and of which statement each of them is,
stated as derivations and apart from the clauses that read tokens. A derivation
of a whole statement uses up all its tokens.

Labels and assignments are the two places where a statement holds less than what
was written: of several labels of a field the last one counts, and so does the
last of several values that are assigned to a field, which keeps the place of its
first assignment. Here they are described by what can be looked up in them
(`IsLabelling`, `IsCollected`), not by how they are collected.
-/

namespace SqlDialect
namespace Grammar

/-- The tokens of one or more items with a separator between neighbours. -/
inductive Separated
    (separator : List Token)
    (Derives : α → List Token → Prop) : List α → List Token → Prop
  | single
      {item : α}
      {tokens : List Token}
      (derived : Derives item tokens) :
      Separated separator Derives [item] tokens
  | cons
      {item : α}
      {items : List α}
      {tokens rest : List Token}
      (derived : Derives item tokens)
      (others : Separated separator Derives items rest) :
      Separated separator Derives (item :: items) (tokens ++ (separator ++ rest))

/-! ## Names, values and conditions -/

/-- A name is an identifier that does not begin with a quote. -/
inductive Name : String → List Token → Prop
  | ident
      {name : String}
      (noQuote : beginsWithQuote name = false) :
      Name name [.ident name]

/-- A value is a literal. -/
inductive Value : String → List Token → Prop
  | literal {value : String} : Value value [.literal value]

/-- An operand is a name or a value. -/
inductive IsOperand : Operand → List Token → Prop
  | field
      {name : String}
      {tokens : List Token}
      (named : Name name tokens) :
      IsOperand (.field name) tokens
  | value
      {value : String}
      {tokens : List Token}
      (valued : Value value tokens) :
      IsOperand (.value value) tokens

/-- A condition is a comparison between two operands. -/
inductive IsCondition : Condition → List Token → Prop
  | compare
      {left right : Operand}
      {comparison : Comparison}
      {leftTokens rightTokens : List Token}
      (leftDerived : IsOperand left leftTokens)
      (rightDerived : IsOperand right rightTokens) :
      IsCondition ⟨left, comparison, right⟩
        (leftTokens ++ comparison.token :: rightTokens)

/-- One or more conditions with `AND` between neighbours. -/
def IsConditions : List Condition → List Token → Prop :=
  Separated [.keyword .AND] IsCondition

/-- The conditions of a selection, which may have none. -/
inductive IsOptionalWhere : List Condition → List Token → Prop
  | absent : IsOptionalWhere [] []
  | present
      {conditions : List Condition}
      {tokens : List Token}
      (derived : IsConditions conditions tokens) :
      IsOptionalWhere conditions (.keyword .WHERE :: tokens)

/-! ## Items, assignments and rows -/

/-- An item of a selection is the wildcard, or a name with or without a label. -/
inductive IsItem : Clause.SelectedItem → List Token → Prop
  | wildcard : IsItem .wildcard [.asterisk]
  | field
      {name : String}
      {tokens : List Token}
      (named : Name name tokens) :
      IsItem (.field name none) tokens
  | labelled
      {name label : String}
      {nameTokens labelTokens : List Token}
      (named : Name name nameTokens)
      (labelNamed : Name label labelTokens) :
      IsItem (.field name (some label))
        (nameTokens ++ .keyword .AS :: labelTokens)

/-- An assignment gives a value to a name. -/
inductive IsAssignment : String × String → List Token → Prop
  | assign
      {field value : String}
      {fieldTokens valueTokens : List Token}
      (named : Name field fieldTokens)
      (valued : Value value valueTokens) :
      IsAssignment (field, value) (fieldTokens ++ .equal :: valueTokens)

/-- A row has as many values as there are fields. -/
inductive IsRow (width : Nat) : List String → List Token → Prop
  | row
      {values : List String}
      {tokens : List Token}
      (derived : Separated [.comma] Value values tokens)
      (equalCounts : values.length = width) :
      IsRow width values (.openParen :: (tokens ++ [.closeParen]))

/-! ## What a statement holds of what was written -/

/-- The value of the last pair with a key. -/
def lastValue? (key : String) (pairs : List (String × String)) : Option String :=
  (pairs.reverse.find? fun pair => pair.1 = key).map Prod.snd

/-- Labels that hold for each field the last label that was written for it. -/
def IsLabelling
    (items : List Clause.SelectedItem)
    (labels : SortedMap String) : Prop :=
  ∀ name, labels.find? name =
    lastValue? name (items.filterMap Clause.SelectedItem.labelling?)

/-- Assignments that hold each assigned field once, in the order of the first
assignments to them, with the last value that was assigned to it. -/
structure IsCollected (written collected : List (String × String)) : Prop where
  fields : collected.map Prod.fst = (written.map Prod.fst).eraseDups
  values : ∀ pair ∈ collected, lastValue? pair.1 written = some pair.2

/-! ## Statements -/

/-- A statement, and the tokens that are written for it. -/
inductive IsStatement : Statement → List Token → Prop
  | select
      {items : List Clause.SelectedItem}
      {labels : SortedMap String}
      {table : String}
      {conditions : List Condition}
      {itemTokens tableTokens whereTokens : List Token}
      (itemsDerived : Separated [.comma] IsItem items itemTokens)
      (tableDerived : Value table tableTokens)
      (whereDerived : IsOptionalWhere conditions whereTokens)
      (labelling : IsLabelling items labels) :
      IsStatement
        { kind := .select
          table := table
          fields := items.map Clause.SelectedItem.name
          labels := labels
          conditions := conditions
          assignments := []
          rows := [] }
        (.keyword .SELECT ::
          (itemTokens ++ .keyword .FROM :: (tableTokens ++ whereTokens)))
  | update
      {table : String}
      {written collected : List (String × String)}
      {conditions : List Condition}
      {tableTokens assignmentTokens conditionTokens : List Token}
      (tableDerived : Value table tableTokens)
      (assignmentsDerived : Separated [.comma] IsAssignment written assignmentTokens)
      (conditionsDerived : IsConditions conditions conditionTokens)
      (isCollected : IsCollected written collected) :
      IsStatement
        { kind := .update
          table := table
          fields := []
          labels := .empty
          conditions := conditions
          assignments := collected
          rows := [] }
        (.keyword .UPDATE ::
          (tableTokens ++ .keyword .SET ::
            (assignmentTokens ++ .keyword .WHERE :: conditionTokens)))
  | delete
      {table : String}
      {conditions : List Condition}
      {tableTokens conditionTokens : List Token}
      (tableDerived : Value table tableTokens)
      (conditionsDerived : IsConditions conditions conditionTokens) :
      IsStatement
        { kind := .delete
          table := table
          fields := []
          labels := .empty
          conditions := conditions
          assignments := []
          rows := [] }
        (.keyword .DELETE :: .keyword .FROM ::
          (tableTokens ++ .keyword .WHERE :: conditionTokens))
  | insert
      {table : String}
      {fields : List String}
      {rows : List (List String)}
      {tableTokens fieldTokens rowTokens : List Token}
      (tableDerived : Value table tableTokens)
      (fieldsDerived : Separated [.comma] Name fields fieldTokens)
      (rowsDerived : Separated [.comma] (IsRow fields.length) rows rowTokens) :
      IsStatement
        { kind := .insert
          table := table
          fields := fields
          labels := .empty
          conditions := []
          assignments := []
          rows := rows }
        (.keyword .INSERT :: .keyword .INTO ::
          (tableTokens ++ .openParen ::
            (fieldTokens ++ .closeParen :: .keyword .VALUES :: rowTokens)))

/-- Whether a field that has the name of the wildcard is given a label. The
wildcard itself is a symbol, and no text has a field of that name. -/
def LabelsWildcardName (tokens : List Token) : Prop :=
  [.ident wildcardName, .keyword .AS] <:+: tokens

/-- The tokens of a list of items as a selection takes it: one or more items with commas
between neighbours, and no label for a field that has the name of the wildcard. -/
structure IsItemList
    (items : List Clause.SelectedItem)
    (tokens : List Token) : Prop where
  derived : Separated [.comma] IsItem items tokens
  labels : ¬LabelsWildcardName tokens

/-! ## Separated items -/

namespace Separated

variable {separator : List Token} {Derives : α → List Token → Prop}

theorem ne_nil
    {items : List α}
    {tokens : List Token}
    (separated : Separated separator Derives items tokens) :
    items ≠ [] := by
  cases separated <;> simp

/-- Each item is derived from tokens that stand in a row. -/
theorem infix_of_mem
    {items : List α}
    {tokens : List Token}
    (separated : Separated separator Derives items tokens)
    {item : α}
    (member : item ∈ items) :
    ∃ itemTokens, Derives item itemTokens ∧ itemTokens <:+: tokens := by
  induction separated with
  | single derived =>
      rw [List.mem_singleton.mp member]
      exact ⟨_, derived, List.infix_refl _⟩
  | @cons first items tokens rest derived others inductionHypothesis =>
      rcases List.mem_cons.mp member with rfl | later
      · exact ⟨tokens, derived, (List.prefix_append _ _).isInfix⟩
      · obtain ⟨itemTokens, itemDerived, inRest⟩ := inductionHypothesis later
        refine ⟨itemTokens, itemDerived, inRest.trans ?_⟩
        rw [← List.append_assoc]
        exact (List.suffix_append _ _).isInfix

/-- What holds of the tokens of each item and of the separator holds of all. -/
theorem forall_mem
    {Holds : Token → Prop}
    {items : List α}
    {tokens : List Token}
    (separated : Separated separator Derives items tokens)
    (ofItem : ∀ {item itemTokens}, Derives item itemTokens →
      ∀ token ∈ itemTokens, Holds token)
    (ofSeparator : ∀ token ∈ separator, Holds token) :
    ∀ token ∈ tokens, Holds token := by
  induction separated with
  | single derived => exact ofItem derived
  | cons derived _ inductionHypothesis =>
      refine List.forall_mem_append.mpr ⟨ofItem derived, ?_⟩
      exact List.forall_mem_append.mpr ⟨ofSeparator, inductionHypothesis⟩

/-- Items whose derivations all have a property. -/
theorem and_forall
    {Holds : α → Prop}
    {items : List α}
    {tokens : List Token} :
    Separated separator (fun item tokens => Derives item tokens ∧ Holds item)
        items tokens ↔
      Separated separator Derives items tokens ∧ ∀ item ∈ items, Holds item := by
  constructor
  · intro separated
    induction separated with
    | single derived =>
        exact ⟨.single derived.1, List.forall_mem_singleton.mpr derived.2⟩
    | cons derived _ inductionHypothesis =>
        exact ⟨.cons derived.1 inductionHypothesis.1,
          List.forall_mem_cons.mpr ⟨derived.2, inductionHypothesis.2⟩⟩
  · rintro ⟨separated, holds⟩
    induction separated with
    | single derived =>
        exact .single ⟨derived, holds _ (List.mem_singleton_self _)⟩
    | cons derived _ inductionHypothesis =>
        obtain ⟨first, others⟩ := List.forall_mem_cons.mp holds
        exact .cons ⟨derived, first⟩ (inductionHypothesis others)

/-- Items that are images of other ones. -/
theorem map
    {Derives : β → List Token → Prop}
    {image : α → β}
    {items : List α}
    {tokens : List Token}
    (separated : Separated separator (fun item => Derives (image item)) items tokens) :
    Separated separator Derives (items.map image) tokens := by
  induction separated with
  | single derived => exact .single derived
  | cons derived _ inductionHypothesis => exact .cons derived inductionHypothesis

end Separated

/-- Conditions that are there stand after the word `WHERE`. -/
theorem IsOptionalWhere.of_ne_nil
    {conditions : List Condition}
    {tokens : List Token}
    (derived : IsOptionalWhere conditions tokens)
    (someConditions : conditions ≠ []) :
    ∃ conditionTokens,
      tokens = .keyword .WHERE :: conditionTokens ∧
        IsConditions conditions conditionTokens := by
  cases derived with
  | absent => exact absurd rfl someConditions
  | present derived => exact ⟨_, rfl, derived⟩

end Grammar
end SqlDialect
