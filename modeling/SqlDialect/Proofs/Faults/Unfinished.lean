import SqlDialect.Proofs.Faults.Reading
import SqlDialect.Proofs.Grammar.Clauses

/-!
# What follows an open quote

A quote that is never closed is a token of its own, with everything after it. To a
clause it is nothing but a token that is not expected, so what follows the quote
makes no difference (`Clause.IgnoresUnfinished`): a clause reads tokens alike with
and without what follows the open quotes among them. This goes on from the parts of
a clause to the whole, and from the items of a list to the list
(`Clause.Series.ignoresUnfinished_clause`).

A clause compares tokens with reserved words and symbols, also those that it looks
for further on, and asks for names and values. An open quote is none of these.
-/

namespace SqlDialect

open Grammar

namespace Token

/-- A token without what follows an open quote. -/
def withoutUnfinished : Token → Token
  | ident word => if beginsWithQuote word then ident "'" else ident word
  | token => token

/-- All open quotes become the same token, a quote with nothing after it. -/
theorem withoutUnfinished_of_isUnclosed
    {token : Token}
    (unclosed : token.isUnclosed = true) :
    token.withoutUnfinished = ident "'" := by
  cases token with
  | ident word => exact if_pos unclosed
  | _ => cases unclosed

theorem withoutUnfinished_of_closed
    {token : Token}
    (closed : token.isUnclosed = false) :
    token.withoutUnfinished = token := by
  cases token with
  | ident word =>
      rw [isUnclosed] at closed
      simp [withoutUnfinished, closed]
  | _ => rfl

@[simp] theorem isUnclosed_withoutUnfinished (token : Token) :
    token.withoutUnfinished.isUnclosed = token.isUnclosed := by
  cases unclosed : token.isUnclosed with
  | true =>
      rw [withoutUnfinished_of_isUnclosed unclosed]
      decide
  | false => rw [withoutUnfinished_of_closed unclosed, unclosed]

/-- A quote without an end has no meaning that a clause expects. -/
@[simp] theorem field?_withoutUnfinished (token : Token) :
    token.withoutUnfinished.field? = token.field? := by
  cases token with
  | ident word =>
      rw [withoutUnfinished]
      by_cases isQuote : beginsWithQuote word = true
      · simp only [field?, isQuote, if_true]
        decide
      · rw [if_neg isQuote]
  | _ => rfl

/-- A value is a literal, which a quote is only with its end. -/
@[simp] theorem value?_withoutUnfinished (token : Token) :
    token.withoutUnfinished.value? = token.value? := by
  cases token with
  | ident word =>
      rw [withoutUnfinished]
      split <;> rfl
  | _ => rfl

@[simp] theorem operand?_withoutUnfinished (token : Token) :
    token.withoutUnfinished.operand? = token.operand? := by
  simp [operand?]

@[simp] theorem comparison?_withoutUnfinished (token : Token) :
    token.withoutUnfinished.comparison? = token.comparison? := by
  cases token with
  | ident word =>
      rw [withoutUnfinished]
      split <;> rfl
  | _ => rfl

/-- Whether a token is always the same: a reserved word or a symbol. -/
def isFixed : Token → Bool
  | literal _ | ident _ => false
  | _ => true

/-- No token becomes a reserved word or a symbol by being cut off, and none stops being
one. -/
theorem withoutUnfinished_eq_iff
    {fixed : Token}
    (isFixed : fixed.isFixed = true)
    (token : Token) :
    token.withoutUnfinished = fixed ↔ token = fixed := by
  cases unclosed : token.isUnclosed with
  | true =>
      rw [withoutUnfinished_of_isUnclosed unclosed]
      constructor
      · rintro rfl
        cases isFixed
      · rintro rfl
        cases token <;> cases isFixed <;> cases unclosed
  | false => rw [withoutUnfinished_of_closed unclosed]

end Token

/-- Tokens without what follows open quotes. -/
abbrev withoutUnfinished (tokens : List Token) : List Token :=
  tokens.map Token.withoutUnfinished

theorem withoutUnfinished_append (front back : List Token) :
    withoutUnfinished (front ++ back) =
      withoutUnfinished front ++ withoutUnfinished back :=
  List.map_append

theorem withoutUnfinished_singleton
    {token : Token}
    (unclosed : token.isUnclosed = true) :
    withoutUnfinished [token] = [.ident "'"] := by
  rw [withoutUnfinished, List.map_singleton,
    Token.withoutUnfinished_of_isUnclosed unclosed]

namespace Clause

/-- Whether a clause reads tokens alike, whatever follows an open quote among
them. -/
def IgnoresUnfinished (clause : Clause α) : Prop :=
  ∀ tokens, clause.run (withoutUnfinished tokens) =
    (clause.run tokens).map (Prod.map id withoutUnfinished)

theorem ignoresUnfinished_pure (value : α) :
    (pure value : Clause α).IgnoresUnfinished :=
  fun _ => rfl

/-- A token is expected alike with and without what follows an open quote if the meaning
that is asked for is the same for both. -/
theorem ignoresUnfinished_expect
    {meaning : Token → Option α}
    (same : ∀ token : Token, meaning token.withoutUnfinished = meaning token)
    (fault : SyntaxFault) :
    (expect meaning fault).IgnoresUnfinished := by
  rintro (_ | ⟨token, rest⟩)
  · rfl
  · simp only [StateT.run, withoutUnfinished, List.map_cons, expect, same]
    split <;> rfl

theorem ignoresUnfinished_skip
    {expected : Token}
    (isFixed : expected.isFixed = true)
    (fault : SyntaxFault) :
    (skip expected fault).IgnoresUnfinished := by
  rintro (_ | ⟨token, rest⟩)
  · rfl
  · simp only [StateT.run, withoutUnfinished, List.map_cons, skip,
      Token.withoutUnfinished_eq_iff isFixed]
    split <;> rfl

/-- Two clauses in a row read some tokens alike if the first one does, and the second
one does with what the first one leaves. -/
theorem run_bind_withoutUnfinished
    {first : Clause α}
    {second : α → Clause β}
    {tokens : List Token}
    (firstAlike : first.run (withoutUnfinished tokens) =
      (first.run tokens).map (Prod.map id withoutUnfinished))
    (secondAlike : ∀ value between, first.run tokens = .ok (value, between) →
      (second value).run (withoutUnfinished between) =
        ((second value).run between).map (Prod.map id withoutUnfinished)) :
    (first >>= second).run (withoutUnfinished tokens) =
      ((first >>= second).run tokens).map (Prod.map id withoutUnfinished) := by
  cases firstRun : first.run tokens with
  | error fault =>
      rw [firstRun] at firstAlike
      rw [run_bind_of_error firstRun, run_bind_of_error firstAlike]
      rfl
  | ok result =>
      obtain ⟨value, between⟩ := result
      rw [firstRun] at firstAlike
      rw [run_bind_of_ok firstRun, run_bind_of_ok firstAlike]
      exact secondAlike value between firstRun

/-- What follows an open quote makes no difference to two clauses in a row if it makes
none to either of them. -/
theorem IgnoresUnfinished.bind
    {first : Clause α}
    {second : α → Clause β}
    (firstIgnores : first.IgnoresUnfinished)
    (secondIgnores : ∀ value, (second value).IgnoresUnfinished) :
    (first >>= second).IgnoresUnfinished :=
  fun tokens => run_bind_withoutUnfinished (firstIgnores tokens)
    fun value between _ => secondIgnores value between

/-- What follows an open quote makes no difference to a list if it makes none to its items
and to what decides whether the list goes on. -/
theorem Series.ignoresUnfinished_clause
    {series : Series α}
    (itemIgnores : series.item.IgnoresUnfinished)
    (followingIgnores : series.following.IgnoresUnfinished) :
    series.clause.IgnoresUnfinished := by
  intro tokens
  induction length : tokens.length using Nat.strong_induction_on
    generalizing tokens with
  | _ size inductionHypothesis =>
      rw [run_clause, run_clause]
      refine run_bind_withoutUnfinished (itemIgnores tokens)
        fun value afterItem itemRead => ?_
      refine run_bind_withoutUnfinished (followingIgnores afterItem)
        fun next between followed => ?_
      cases next with
      | finished => exact ignoresUnfinished_pure [value] between
      | another =>
          have shorter := series.advances itemRead followed
          rw [length] at shorter
          exact run_bind_withoutUnfinished (inductionHypothesis _ shorter between rfl)
            fun values rest _ => ignoresUnfinished_pure (value :: values) rest

/-- A clause that reads alike after no token, after an open quote and after every
other token ignores what follows open quotes. -/
theorem IgnoresUnfinished.of_cons
    {clause : Clause α}
    (nil :
      clause.run [] = (clause.run []).map (Prod.map id withoutUnfinished))
    (unfinished : ∀ word rest, beginsWithQuote word = true →
      clause.run (.ident "'" :: withoutUnfinished rest) =
        (clause.run (.ident word :: rest)).map (Prod.map id withoutUnfinished))
    (closed : ∀ token rest,
      clause.run (token :: withoutUnfinished rest) =
        (clause.run (token :: rest)).map (Prod.map id withoutUnfinished)) :
    clause.IgnoresUnfinished := by
  rintro (_ | ⟨token, rest⟩)
  · exact nil
  · rw [withoutUnfinished, List.map_cons]
    cases isUnclosed : token.isUnclosed with
    | true =>
        rw [Token.withoutUnfinished_of_isUnclosed isUnclosed]
        cases token with
        | ident word => exact unfinished word rest isUnclosed
        | _ => cases isUnclosed
    | false =>
        rw [Token.withoutUnfinished_of_closed isUnclosed]
        exact closed token rest

/-! ### Conditions -/

theorem ignoresUnfinished_condition : condition.IgnoresUnfinished := by
  have operand := Token.operand?_withoutUnfinished
  refine .bind (ignoresUnfinished_expect operand _) fun left => ?_
  refine .bind (ignoresUnfinished_expect Token.comparison?_withoutUnfinished _)
    fun comparison => ?_
  exact .bind (ignoresUnfinished_expect operand _) fun right =>
    ignoresUnfinished_pure _

theorem ignoresUnfinished_afterCondition : afterCondition.IgnoresUnfinished :=
  .of_cons rfl (fun _ _ _ => rfl) fun token rest => by
    cases token with
    | keyword reserved => cases reserved <;> rfl
    | _ => rfl

theorem ignoresUnfinished_conditions : conditions.IgnoresUnfinished := by
  rintro (_ | ⟨token, rest⟩)
  · rfl
  · exact Series.ignoresUnfinished_clause ignoresUnfinished_condition
      ignoresUnfinished_afterCondition (token :: rest)

theorem ignoresUnfinished_whereClause : whereClause.IgnoresUnfinished :=
  .bind (ignoresUnfinished_skip rfl _) fun _ => ignoresUnfinished_conditions

theorem ignoresUnfinished_optionalWhereClause :
    optionalWhereClause.IgnoresUnfinished := by
  rintro (_ | ⟨token, rest⟩)
  · rfl
  · exact ignoresUnfinished_whereClause (token :: rest)

/-- A reserved word that a clause looks for further on is found alike in tokens that are
cut off. -/
theorem mem_withoutUnfinished_iff
    {fixed : Token}
    (isFixed : fixed.isFixed = true)
    (tokens : List Token) :
    fixed ∈ withoutUnfinished tokens ↔ fixed ∈ tokens := by
  rw [withoutUnfinished, List.mem_map]
  constructor
  · rintro ⟨token, member, same⟩
    rwa [← (Token.withoutUnfinished_eq_iff isFixed token).mp same]
  · intro member
    exact ⟨fixed, member, (Token.withoutUnfinished_eq_iff isFixed fixed).mpr rfl⟩

/-- A WHERE after an open quote is part of it, so that it is not found either way. -/
theorem ignoresUnfinished_demandWhere : demandWhere.IgnoresUnfinished := by
  intro tokens
  have isFixed : (Token.keyword .WHERE).isFixed = true := rfl
  rw [run_demandWhere, run_demandWhere]
  simp only [mem_withoutUnfinished_iff isFixed]
  split <;> rfl

/-! ### Selections -/

/-- The message for a label that is missing depends on whether any token follows, which
stays the same. -/
theorem labelFault_withoutUnfinished
    (selected : String)
    (tokens : List Token) :
    labelFault selected (withoutUnfinished tokens) = labelFault selected tokens := by
  cases tokens <;> rfl

theorem head?_withoutUnfinished_eq_iff
    {fixed : Token}
    (isFixed : fixed.isFixed = true)
    (tokens : List Token) :
    (withoutUnfinished tokens).head? = some fixed ↔ tokens.head? = some fixed := by
  cases tokens with
  | nil => rfl
  | cons token rest => simp [Token.withoutUnfinished_eq_iff isFixed]

theorem ignoresUnfinished_wildcardItem : wildcardItem.IgnoresUnfinished := by
  intro tokens
  by_cases labels : tokens.head? = some (.keyword .AS)
  · obtain ⟨rest, rfl⟩ := List.head?_eq_some_iff.mp labels
    exact congrArg Except.error (labelFault_withoutUnfinished wildcardName rest)
  · have cutOffLabels := mt (head?_withoutUnfinished_eq_iff rfl tokens).mp labels
    simp only [StateT.run, wildcardItem_of_head?_ne labels,
      wildcardItem_of_head?_ne cutOffLabels]
    rfl

/-- A label is read alike although its message depends on the tokens that follow. -/
theorem ignoresUnfinished_label
    (name : String)
    (tokens : List Token) :
    (expect Token.field? (labelFault name (withoutUnfinished tokens))).run
        (withoutUnfinished tokens) =
      ((expect Token.field? (labelFault name tokens)).run tokens).map
        (Prod.map id withoutUnfinished) := by
  rw [labelFault_withoutUnfinished]
  exact ignoresUnfinished_expect Token.field?_withoutUnfinished _ tokens

theorem ignoresUnfinished_fieldItem (name : String) :
    (fieldItem name).IgnoresUnfinished := by
  intro tokens
  by_cases labels : tokens.head? = some (.keyword .AS)
  · obtain ⟨rest, rfl⟩ := List.head?_eq_some_iff.mp labels
    have labelAlike := ignoresUnfinished_label name rest
    simp only [StateT.run, withoutUnfinished] at labelAlike
    simp only [StateT.run, withoutUnfinished, List.map_cons, Token.withoutUnfinished,
      fieldItem, labelAlike]
    split
    · exact congrArg Except.error (labelFault_withoutUnfinished name rest)
    · cases expect Token.field? (labelFault name rest) rest <;> rfl
  · have cutOffLabels := mt (head?_withoutUnfinished_eq_iff rfl tokens).mp labels
    simp only [StateT.run, fieldItem_of_head?_ne labels,
      fieldItem_of_head?_ne cutOffLabels]
    rfl

theorem ignoresUnfinished_selectedItem : selectedItem.IgnoresUnfinished := by
  refine .of_cons rfl (fun word rest isQuote => ?_) fun token rest => ?_
  · have noField : (Token.ident word).field? = none := if_pos isQuote
    simp only [StateT.run, selectedItem, noField]
    rfl
  · cases token with
    | ident word =>
        simp only [StateT.run, selectedItem]
        cases (Token.ident word).field? with
        | none => rfl
        | some name => exact ignoresUnfinished_fieldItem name rest
    | asterisk => exact ignoresUnfinished_wildcardItem rest
    | _ => rfl

theorem ignoresUnfinished_afterSelectedItem : afterSelectedItem.IgnoresUnfinished :=
  .of_cons rfl (fun _ _ _ => rfl) fun token rest => by
    cases token with
    | keyword reserved => cases reserved <;> rfl
    | _ => rfl

theorem ignoresUnfinished_table : table.IgnoresUnfinished :=
  ignoresUnfinished_expect Token.value?_withoutUnfinished _

theorem ignoresUnfinished_selection : selection.IgnoresUnfinished := by
  refine .bind (Series.ignoresUnfinished_clause ignoresUnfinished_selectedItem
    ignoresUnfinished_afterSelectedItem) fun items => ?_
  refine .bind ignoresUnfinished_table fun table => ?_
  exact .bind ignoresUnfinished_optionalWhereClause fun _ => ignoresUnfinished_pure _

/-! ### Updates and deletions -/

theorem ignoresUnfinished_assignment : assignment.IgnoresUnfinished := by
  refine .bind (ignoresUnfinished_expect Token.field?_withoutUnfinished _)
    fun field => ?_
  refine .bind (ignoresUnfinished_skip rfl _) fun _ => ?_
  exact .bind (ignoresUnfinished_expect Token.value?_withoutUnfinished _) fun _ =>
    ignoresUnfinished_pure _

theorem ignoresUnfinished_afterAssignment : afterAssignment.IgnoresUnfinished :=
  .of_cons rfl (fun _ _ _ => rfl) fun token rest => by
    cases token with
    | keyword reserved => cases reserved <;> rfl
    | _ => rfl

theorem ignoresUnfinished_update : update.IgnoresUnfinished := by
  refine .bind ignoresUnfinished_table fun table => ?_
  refine .bind ignoresUnfinished_demandWhere fun _ => ?_
  refine .bind (ignoresUnfinished_skip rfl _) fun _ => ?_
  refine .bind (Series.ignoresUnfinished_clause ignoresUnfinished_assignment
    ignoresUnfinished_afterAssignment) fun assignments => ?_
  exact .bind ignoresUnfinished_conditions fun _ => ignoresUnfinished_pure _

theorem ignoresUnfinished_deletion : deletion.IgnoresUnfinished := by
  refine .bind ignoresUnfinished_table fun table => ?_
  refine .bind ignoresUnfinished_demandWhere fun _ => ?_
  exact .bind ignoresUnfinished_whereClause fun _ => ignoresUnfinished_pure _

/-! ### Insertions -/

/-- An asterisk among the fields is found alike, since neither it nor the closing
parenthesis is an open quote. -/
theorem wildcardBeforeClose_withoutUnfinished (tokens : List Token) :
    wildcardBeforeClose (withoutUnfinished tokens) = wildcardBeforeClose tokens := by
  have notClose : (fun token : Token => decide (token ≠ .closeParen)) ∘
      Token.withoutUnfinished = fun token => decide (token ≠ .closeParen) := by
    funext token
    have isFixed : Token.closeParen.isFixed = true := rfl
    simp only [Function.comp, ne_eq, Token.withoutUnfinished_eq_iff isFixed]
  rw [wildcardBeforeClose, wildcardBeforeClose, withoutUnfinished, List.takeWhile_map,
    notClose]
  exact decide_eq_decide.mpr (mem_withoutUnfinished_iff rfl _)

theorem ignoresUnfinished_refuseWildcard : refuseWildcard.IgnoresUnfinished := by
  intro tokens
  rw [run_refuseWildcard, run_refuseWildcard, wildcardBeforeClose_withoutUnfinished]
  split <;> rfl

theorem ignoresUnfinished_afterInsertedField :
    afterInsertedField.IgnoresUnfinished :=
  .of_cons rfl (fun _ _ _ => rfl) fun token rest => by cases token <;> rfl

/-- The values of a row are read alike: where one is expected, an open quote is refused
like any other word. -/
theorem rowValues_withoutUnfinished (tokens : List Token) :
    rowValues (withoutUnfinished tokens) =
      (rowValues tokens).map (Prod.map id (Option.map withoutUnfinished)) := by
  induction tokens using rowValues.induct with
  | case1 | case2 | case3 => rfl
  | case4 value tail values afterRow innerRead inductionHypothesis =>
      rw [innerRead] at inductionHypothesis
      rw [rowValues, innerRead]
      simp only [withoutUnfinished, List.map_cons, Token.withoutUnfinished] at *
      rw [rowValues, inductionHypothesis]
      rfl
  | case5 value tail fault innerFailed inductionHypothesis =>
      rw [innerFailed] at inductionHypothesis
      rw [rowValues, innerFailed]
      simp only [withoutUnfinished, List.map_cons, Token.withoutUnfinished] at *
      rw [rowValues, inductionHypothesis]
      rfl
  | case6 value second rest notClose notComma =>
      cases second with
      | closeParen => cases notClose rfl
      | comma => cases notComma rfl
      | ident word =>
          simp only [withoutUnfinished, List.map_cons, Token.withoutUnfinished]
          split <;> rfl
      | _ => rfl
  | case7 first rest noValue noValueClose noValueComma noOther =>
      cases first with
      | literal value =>
          cases rest with
          | nil => exact (noValue value rfl rfl).elim
          | cons second rest => exact (noOther value second rest rfl rfl).elim
      | ident word =>
          simp only [withoutUnfinished, List.map_cons, Token.withoutUnfinished]
          split <;> rfl
      | _ => rfl

/-- Only a row that closes at once is not read as a list of values. -/
theorem rowBody_of_head?_ne
    {tokens : List Token}
    (notClosed : tokens.head? ≠ some .closeParen) :
    rowBody tokens = rowValues tokens := by
  fun_cases rowBody tokens with
  | case1 => simp at notClosed
  | case2 => rfl

theorem rowBody_withoutUnfinished (tokens : List Token) :
    rowBody (withoutUnfinished tokens) =
      (rowBody tokens).map (Prod.map id (Option.map withoutUnfinished)) := by
  by_cases closes : tokens.head? = some .closeParen
  · obtain ⟨rest, rfl⟩ := List.head?_eq_some_iff.mp closes
    rfl
  · have cutOffCloses := mt (head?_withoutUnfinished_eq_iff rfl tokens).mp closes
    rw [rowBody_of_head?_ne closes, rowBody_of_head?_ne cutOffCloses]
    exact rowValues_withoutUnfinished tokens

theorem ignoresUnfinished_row (width : Nat) : (row width).IgnoresUnfinished := by
  intro tokens
  simp only [StateT.run, row, rowBody_withoutUnfinished]
  cases rowBody tokens with
  | error fault => rfl
  | ok result =>
      obtain ⟨values, _ | rest⟩ := result <;>
        simp only [Except.map, Prod.map, id_eq, Option.map] <;>
        split <;> rfl

/-- After a comma another row is opened or missing, and an open quote does not open it. -/
theorem ignoresUnfinished_afterRow : afterRow.IgnoresUnfinished := by
  refine .of_cons rfl (fun _ _ _ => rfl) fun token rest => ?_
  cases token with
  | comma =>
      have afterComma : IgnoresUnfinished fun rest => afterRow (.comma :: rest) :=
        .of_cons rfl (fun _ _ _ => rfl) fun next _ => by cases next <;> rfl
      exact afterComma rest
  | _ => rfl

theorem ignoresUnfinished_insertion : insertion.IgnoresUnfinished := by
  refine .bind ignoresUnfinished_table fun table => ?_
  refine .bind (ignoresUnfinished_skip rfl _) fun _ => ?_
  refine .bind ignoresUnfinished_refuseWildcard fun _ => ?_
  refine .bind (Series.ignoresUnfinished_clause
    (ignoresUnfinished_expect Token.field?_withoutUnfinished _)
    ignoresUnfinished_afterInsertedField) fun fields => ?_
  refine .bind (ignoresUnfinished_skip rfl _) fun _ => ?_
  refine .bind (ignoresUnfinished_skip rfl _) fun _ => ?_
  exact .bind (Series.ignoresUnfinished_clause (ignoresUnfinished_row _)
    ignoresUnfinished_afterRow) fun _ => ignoresUnfinished_pure _

/-! ### Statements -/

/-- An open quote after DELETE is not the FROM that belongs there. -/
theorem ignoresUnfinished_deletionWords :
    IgnoresUnfinished fun rest => Clause.statement (.keyword .DELETE :: rest) := by
  refine .of_cons rfl (fun _ _ _ => rfl) fun token rest => ?_
  cases token with
  | keyword reserved =>
      cases reserved with
      | FROM => exact ignoresUnfinished_deletion rest
      | _ => rfl
  | _ => rfl

theorem ignoresUnfinished_insertionWords :
    IgnoresUnfinished fun rest => Clause.statement (.keyword .INSERT :: rest) := by
  refine .of_cons rfl (fun _ _ _ => rfl) fun token rest => ?_
  cases token with
  | keyword reserved =>
      cases reserved with
      | INTO => exact ignoresUnfinished_insertion rest
      | _ => rfl
  | _ => rfl

/-- An open quote is not one of the words that a statement begins with, and each kind of
statement is read alike after them. -/
theorem ignoresUnfinished_statement : Clause.statement.IgnoresUnfinished := by
  refine .of_cons rfl (fun _ _ _ => rfl) fun token rest => ?_
  cases token with
  | keyword reserved =>
      cases reserved with
      | SELECT => exact ignoresUnfinished_selection rest
      | UPDATE => exact ignoresUnfinished_update rest
      | DELETE => exact ignoresUnfinished_deletionWords rest
      | INSERT => exact ignoresUnfinished_insertionWords rest
      | _ => rfl
  | _ => rfl

end Clause

/-- What follows an open quote makes no difference to what a statement is. -/
theorem Statement.ofTokens_withoutUnfinished (tokens : List Token) :
    Statement.ofTokens (withoutUnfinished tokens) = Statement.ofTokens tokens := by
  rw [Statement.ofTokens, Statement.ofTokens, Clause.ignoresUnfinished_statement]
  cases Clause.statement.run tokens <;> rfl

end SqlDialect
