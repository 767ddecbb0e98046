import SqlDialect.Proofs.Faults.Unfinished
import SqlDialect.Proofs.Grammar.Statement
import SqlDialect.Proofs.Spelling.Resumption

/-!
# Texts that end inside a quote

A quote that is never closed is in no derivation, so a text that ends inside a quote
is no statement, whatever stands in it. Why it is none does not depend on what
follows the quote.

That is all that blanks after a text can change: they follow the quote, or they are
passed over. So no blank at either end of a text matters
(`Statement.ofText_of_openQuote`).
-/

namespace SqlDialect

/-! ## Derivations hold no open quote -/

/-- Whether no token is a quote without an end. -/
def AllClosed (tokens : List Token) : Prop :=
  ∀ token ∈ tokens, token.isUnclosed = false

@[simp] theorem allClosed_nil : AllClosed [] := by
  simp [AllClosed]

@[simp] theorem allClosed_cons
    {token : Token}
    {tokens : List Token} :
    AllClosed (token :: tokens) ↔ token.isUnclosed = false ∧ AllClosed tokens :=
  List.forall_mem_cons

@[simp] theorem allClosed_append
    {front back : List Token} :
    AllClosed (front ++ back) ↔ AllClosed front ∧ AllClosed back :=
  List.forall_mem_append

@[simp] theorem Token.isUnclosed_comparison (comparison : Comparison) :
    comparison.token.isUnclosed = false := by
  cases comparison <;> rfl

namespace Grammar

/-- A name does not begin with a quote. -/
theorem Name.allClosed
    {name : String}
    {tokens : List Token}
    (named : Name name tokens) : AllClosed tokens := by
  obtain ⟨noQuote⟩ := named
  exact List.forall_mem_singleton.mpr noQuote

theorem Value.allClosed
    {value : String}
    {tokens : List Token}
    (valued : Value value tokens) : AllClosed tokens := by
  obtain ⟨⟩ := valued
  exact List.forall_mem_singleton.mpr rfl

/-- What is compared is a name or a value, and neither is an open quote. -/
theorem IsOperand.allClosed
    {operand : Operand}
    {tokens : List Token}
    (derived : IsOperand operand tokens) : AllClosed tokens := by
  cases derived with
  | field named => exact named.allClosed
  | value valued => exact valued.allClosed

/-- No condition has an open quote among its tokens. -/
theorem IsConditions.allClosed
    {conditions : List Condition}
    {tokens : List Token}
    (derived : IsConditions conditions tokens) : AllClosed tokens := by
  refine Separated.forall_mem derived (fun compared => ?_)
    (List.forall_mem_singleton.mpr rfl)
  obtain ⟨left, right⟩ := compared
  exact allClosed_append.mpr
    ⟨left.allClosed, allClosed_cons.mpr ⟨by simp, right.allClosed⟩⟩

theorem IsOptionalWhere.allClosed
    {conditions : List Condition}
    {tokens : List Token}
    (derived : IsOptionalWhere conditions tokens) : AllClosed tokens := by
  cases derived with
  | absent => exact allClosed_nil
  | present derived => exact allClosed_cons.mpr ⟨rfl, derived.allClosed⟩

/-- Neither the field of an item nor its label is an open quote. -/
theorem IsItem.allClosed
    {item : Clause.SelectedItem}
    {tokens : List Token}
    (derived : IsItem item tokens) : AllClosed tokens := by
  cases derived with
  | wildcard => exact List.forall_mem_singleton.mpr rfl
  | field named => exact named.allClosed
  | labelled named labelNamed =>
      exact allClosed_append.mpr
        ⟨named.allClosed, allClosed_cons.mpr ⟨rfl, labelNamed.allClosed⟩⟩

/-- An assignment has a name and a value, and neither is an open quote. -/
theorem IsAssignment.allClosed
    {assignment : String × String}
    {tokens : List Token}
    (derived : IsAssignment assignment tokens) : AllClosed tokens := by
  obtain ⟨named, valued⟩ := derived
  exact allClosed_append.mpr
    ⟨named.allClosed, allClosed_cons.mpr ⟨rfl, valued.allClosed⟩⟩

/-- The values of a row are literals, so none of them is an open quote. -/
theorem IsRow.allClosed
    {width : Nat}
    {values : List String}
    {tokens : List Token}
    (derived : IsRow width values tokens) : AllClosed tokens := by
  obtain ⟨valuesDerived, -⟩ := derived
  have valuesClosed := valuesDerived.forall_mem Value.allClosed
    (by simp [Token.isUnclosed])
  exact allClosed_cons.mpr ⟨rfl, allClosed_append.mpr
    ⟨valuesClosed, by simp [Token.isUnclosed]⟩⟩

/-- A statement holds no quote without an end. -/
theorem IsStatement.allClosed
    {statement : Statement}
    {tokens : List Token}
    (derived : IsStatement statement tokens) : AllClosed tokens := by
  have comma : AllClosed [.comma] := by simp [Token.isUnclosed]
  cases derived with
  | select itemsDerived tableDerived whereDerived =>
      have items := itemsDerived.forall_mem IsItem.allClosed comma
      simp only [allClosed_cons, allClosed_append]
      exact ⟨rfl, items, rfl, tableDerived.allClosed, whereDerived.allClosed⟩
  | update tableDerived assignmentsDerived conditionsDerived =>
      have assignments := assignmentsDerived.forall_mem IsAssignment.allClosed comma
      simp only [allClosed_cons, allClosed_append]
      exact ⟨rfl, tableDerived.allClosed, rfl, assignments, rfl,
        conditionsDerived.allClosed⟩
  | delete tableDerived conditionsDerived =>
      simp only [allClosed_cons, allClosed_append]
      exact ⟨rfl, rfl, tableDerived.allClosed, rfl, conditionsDerived.allClosed⟩
  | insert tableDerived fieldsDerived rowsDerived =>
      have fields := fieldsDerived.forall_mem Name.allClosed comma
      have rows := rowsDerived.forall_mem IsRow.allClosed comma
      simp only [allClosed_cons, allClosed_append]
      exact ⟨rfl, rfl, tableDerived.allClosed, rfl, fields, rfl, rfl, rows⟩

end Grammar

open Grammar

/-- Tokens with an open quote among them are no statement. -/
theorem Statement.exists_ofTokens_eq_error
    {tokens : List Token}
    {token : Token}
    (member : token ∈ tokens)
    (unclosed : token.isUnclosed = true) :
    ∃ fault, Statement.ofTokens tokens = .error fault := by
  cases read : Statement.ofTokens tokens with
  | error fault => exact ⟨fault, rfl⟩
  | ok statement =>
      have closed := (Statement.isStatement_of_ofTokens read).1.allClosed token member
      rw [unclosed] at closed
      cases closed

/-! ## Blanks at the ends of a text -/

theorem withoutUnfinished_scanAll_of_isOpenQuote
    {letters : List Char}
    (opened : IsOpenQuote letters) :
    withoutUnfinished (Token.scanAll letters) = [.ident "'"] := by
  have unclosed : (Token.ident (String.ofList letters)).isUnclosed = true := by
    obtain ⟨rest, rfl, -⟩ := opened
    simp [Token.isUnclosed, beginsWithQuote]
  rw [Token.scanAll_of_isOpenQuote opened, withoutUnfinished_singleton unclosed]

/-- Blanks after a text are passed over, or follow an open quote. -/
theorem withoutUnfinished_scanAll_append
    {back : List Char}
    (blank : ∀ character ∈ back, isBlank character = true)
    (text : List Char) :
    withoutUnfinished (Token.scanAll (text ++ back)) =
      withoutUnfinished (Token.scanAll text) := by
  -- After a closed token blanks are skipped, and after an open quote they belong to it.
  by_cases closed : ∀ last ∈ (Token.scanAll text).getLast?, last.isUnclosed = false
  · cases back with
    | nil => rw [List.append_nil]
    | cons first back =>
        obtain ⟨firstBlank, backBlank⟩ := List.forall_mem_cons.mp blank
        have noTokens : Token.scanAll back = [] := by
          have onlyBlanks := Token.scanAll_append_of_isBlank backBlank []
          have atEnd : Token.scanAll [] = [] := Token.scanAll_of_scan?_eq_none rfl
          rwa [List.append_nil, atEnd] at onlyBlanks
        rw [scanAll_append_blank closed firstBlank, noTokens, List.append_nil]
  · simp only [not_forall, Bool.not_eq_false] at closed
    obtain ⟨last, isLast, unclosed⟩ := closed
    obtain ⟨tokens, opened, isOpen, -, reads⟩ :=
      scanAll_append_of_openQuote isLast unclosed
    have noQuote : quoteMark ∉ back := by
      intro member
      exact absurd (blank quoteMark member) (by decide)
    have alone := reads []
    rw [List.append_nil, List.append_nil] at alone
    have quoteAlone := withoutUnfinished_scanAll_of_isOpenQuote isOpen
    have quoteLonger := withoutUnfinished_scanAll_of_isOpenQuote (isOpen.append noQuote)
    rw [alone, reads, withoutUnfinished_append, withoutUnfinished_append, quoteAlone,
      quoteLonger]

/-- What follows an open quote makes no difference to whether a text ends inside
one. -/
theorem endsInsideQuote_eq_of_withoutUnfinished
    {text other : String}
    (same : withoutUnfinished (tokensOf text) = withoutUnfinished (tokensOf other)) :
    endsInsideQuote text = endsInsideQuote other := by
  have sameLast := congrArg (fun tokens => tokens.getLast?.map Token.isUnclosed) same
  simp only [List.getLast?_map, Option.map_map, Function.comp_def,
    Token.isUnclosed_withoutUnfinished] at sameLast
  unfold endsInsideQuote
  cases last : (tokensOf text).getLast? <;>
    cases otherLast : (tokensOf other).getLast? <;>
    simp_all

/-- Blanks after a text open no quote and close none. -/
theorem endsInsideQuote_append_of_isBlank
    {back : List Char}
    (blank : ∀ character ∈ back, isBlank character = true)
    (text : List Char) :
    endsInsideQuote (String.ofList (text ++ back)) =
      endsInsideQuote (String.ofList text) := by
  apply endsInsideQuote_eq_of_withoutUnfinished
  rw [tokensOf, tokensOf, String.toList_ofList, String.toList_ofList,
    withoutUnfinished_scanAll_append blank]

/-- No blank at either end of a text matters. -/
theorem Statement.ofText_trimBlanks (text : String) :
    Statement.ofText (String.ofList (trimBlanks text.toList)) =
      Statement.ofText text := by
  obtain ⟨front, back, whole, frontBlank, backBlank⟩ :=
    exists_append_trimBlanks text.toList
  have tokens : tokensOf text =
      Token.scanAll (trimBlanks text.toList ++ back) := by
    rw [tokensOf]
    nth_rewrite 1 [whole]
    exact Token.scanAll_append_of_isBlank frontBlank _
  rw [Statement.ofText, Statement.ofText, tokens, tokensOf, String.toList_ofList,
    ← Statement.ofTokens_withoutUnfinished,
    ← Statement.ofTokens_withoutUnfinished (Token.scanAll (_ ++ back)),
    withoutUnfinished_scanAll_append backBlank]

/-! ## Open quotes -/

/-- Statements with the same tokens up to an open quote have the same fault. -/
theorem Statement.ofTokens_concat_of_unclosed
    {token otherToken : Token}
    (unclosed : token.isUnclosed = true)
    (otherUnclosed : otherToken.isUnclosed = true)
    (front : List Token) :
    Statement.ofTokens (front ++ [token]) =
      Statement.ofTokens (front ++ [otherToken]) := by
  have cutOff : withoutUnfinished (front ++ [token]) =
      withoutUnfinished (front ++ [otherToken]) := by
    rw [withoutUnfinished_append, withoutUnfinished_append,
      withoutUnfinished_singleton unclosed, withoutUnfinished_singleton otherUnclosed]
  rw [← Statement.ofTokens_withoutUnfinished, cutOff,
    Statement.ofTokens_withoutUnfinished]

/-- A text that ends inside a quote is no statement, and why it is none does not
depend on what follows the quote. A text is the same statement as without the
blanks at its ends, or has the same fault. -/
theorem Statement.ofText_of_openQuote :
    (∀ text, endsInsideQuote text = true →
      ∃ fault, Statement.ofText text = .error fault) ∧
    (∀ (text otherText unfinished otherUnfinished : String) (front : List Token),
      tokensOf text = front ++ [.ident unfinished] →
      tokensOf otherText = front ++ [.ident otherUnfinished] →
      beginsWithQuote unfinished = true →
      beginsWithQuote otherUnfinished = true →
      ∃ fault, Statement.ofText text = .error fault ∧
        Statement.ofText otherText = .error fault) ∧
    ∀ text, Statement.ofText (String.ofList (trimBlanks text.toList)) =
      Statement.ofText text := by
  refine ⟨fun text openQuote => ?_, ?_, Statement.ofText_trimBlanks⟩
  · obtain ⟨last, isLast, unclosed⟩ := (endsInsideQuote_eq_true_iff text).mp openQuote
    exact Statement.exists_ofTokens_eq_error (List.mem_of_mem_getLast? isLast) unclosed
  · intro text otherText unfinished otherUnfinished front tokens otherTokens isQuote
      otherIsQuote
    have unclosed : (Token.ident unfinished).isUnclosed = true := isQuote
    have otherUnclosed : (Token.ident otherUnfinished).isUnclosed = true := otherIsQuote
    have same : Statement.ofText otherText = Statement.ofText text := by
      rw [Statement.ofText, Statement.ofText, tokens, otherTokens]
      exact Statement.ofTokens_concat_of_unclosed otherUnclosed unclosed front
    have member : Token.ident unfinished ∈ tokensOf text := by simp [tokens]
    obtain ⟨fault, failed⟩ := Statement.exists_ofTokens_eq_error member unclosed
    exact ⟨fault, failed, same.trans failed⟩

/-- Two selections with different texts after an open quote, and a selection between
blanks. -/
theorem Statement.ofText_of_openQuote_unfinishedTable :
    (endsInsideQuote "SELECT a FROM 'users \n" = true ∧
      ∃ fault, Statement.ofText "SELECT a FROM 'users \n" = .error fault) ∧
    (∃ fault,
      Statement.ofText "SELECT a FROM 'users \n" = .error fault ∧
        Statement.ofText "select a from 'it\\'s" = .error fault) ∧
    Statement.ofText
        (String.ofList (trimBlanks "\u00a0SELECT a FROM 'users'\r\n".toList)) =
      Statement.ofText "\u00a0SELECT a FROM 'users'\r\n" := by
  have tokens : tokensOf "SELECT a FROM 'users \n" =
      [.keyword .SELECT, .ident "a", .keyword .FROM] ++ [.ident "'users \n"] := by
    decide +kernel
  have otherTokens : tokensOf "select a from 'it\\'s" =
      [.keyword .SELECT, .ident "a", .keyword .FROM] ++ [.ident "'it\\'s"] := by
    decide +kernel
  have openQuote : endsInsideQuote "SELECT a FROM 'users \n" = true := by decide +kernel
  obtain ⟨isError, sameError, trimmed⟩ := Statement.ofText_of_openQuote
  exact ⟨⟨openQuote, isError _ openQuote⟩,
    sameError _ _ _ _ _ tokens otherTokens (by decide +kernel) (by cbv), trimmed _⟩

end SqlDialect
