import SqlDialect.Proofs.Canonical.WellFormed
import SqlDialect.Statement.Canonical

/-!
# Fragments of a canonical text

Canonical texts are put together from names and quoted values, which are read
correctly only if the text goes on with something that ends them, and from fixed
texts between them, which are read in the same way wherever they stand.

* `ReadsAs` says it of the former, with the condition `EndsToken` on what follows;
* `Opens` says it of the latter, and `Separates` adds that they end what is before
  them.

`Writes` leaves the tokens open and says only what is derived from them, so that
a fragment stands for an item of the grammar (`writes_intercalate` for several).
-/

namespace SqlDialect

open Grammar

/-- Whether a text ends a token before it, whatever the token: the text is empty,
or begins with a blank, a comma or a closing parenthesis. -/
def EndsToken (text : List Char) : Prop :=
  ∀ first ∈ text.head?, first = ' ' ∨ first = ',' ∨ first = ')'

/-- Whether a fragment is read as some tokens before each text that ends it. -/
def ReadsAs (fragment : String) (tokens : List Token) : Prop :=
  ∀ rest, EndsToken rest →
    Token.scanAll (fragment.toList ++ rest) = tokens ++ Token.scanAll rest

/-- Whether a fragment is read as some tokens before every text. -/
def Opens (fragment : String) (tokens : List Token) : Prop :=
  ∀ rest, Token.scanAll (fragment.toList ++ rest) = tokens ++ Token.scanAll rest

/-- Whether a fragment is read as some tokens wherever it follows another one. -/
structure Separates (fragment : String) (tokens : List Token) : Prop where
  opens : Opens fragment tokens
  endsToken : ∀ rest, EndsToken (fragment.toList ++ rest)

/-- Whether a fragment is read as tokens from which an item is derived. -/
def Writes
    (Derives : α → List Token → Prop)
    (item : α)
    (fragment : String) : Prop :=
  ∃ tokens, ReadsAs fragment tokens ∧ Derives item tokens

/-! ## What ends a token -/

@[simp] theorem endsToken_nil : EndsToken [] := by
  simp [EndsToken]

@[simp] theorem endsToken_cons_iff
    {first : Char}
    {rest : List Char} :
    EndsToken (first :: rest) ↔ first = ' ' ∨ first = ',' ∨ first = ')' := by
  simp [EndsToken]

/-- Every closed token ends before a blank, a comma or a closing parenthesis. -/
theorem Token.endsBefore_of_endsToken
    {token : Token}
    {rest : List Char}
    (closed : token.isUnclosed = false)
    (ends : EndsToken rest) :
    token.EndsBefore rest := by
  have noWord : wordGoesOn rest = false := by
    cases rest with
    | nil => rfl
    | cons first rest =>
        rcases endsToken_cons_iff.mp ends with rfl | rfl | rfl <;>
          simp [continuesWord, isDelimiter, isBlank_space]
  have noSign : rest.head? ≠ some '=' := by
    intro sign
    have listed := ends '=' sign
    revert listed
    decide
  cases token with
  | ident word =>
      have noQuote : beginsWithQuote word = false := closed
      simp [EndsBefore, noQuote, WordEnds, noWord, noSign]
  | keyword => exact noWord
  | lessThan | greaterThan => exact noSign
  | _ => trivial

/-! ## Tokens and fixed texts -/

/-- A spelling of a token is read as it, unless it is a quote without an end. -/
theorem readsAs_of_isSpelledBy
    {token : Token}
    {fragment : String}
    (spelled : token.IsSpelledBy fragment.toList)
    (closed : token.isUnclosed = false) :
    ReadsAs fragment [token] := by
  intro rest ends
  exact Token.scanAll_append_of_isSpelledBy (List.forall_mem_nil _) spelled
    (Token.endsBefore_of_endsToken closed ends)

/-- A reserved word reads back as itself, by its spelling in capital letters. -/
theorem readsAs_keyword (keyword : Keyword) :
    ReadsAs keyword.text [.keyword keyword] := by
  have spelled : (Token.keyword keyword).IsSpelledBy keyword.text.toList :=
    (Keyword.ofLetters?_eq_some_iff.mp (Keyword.ofLetters?_text keyword)).symm
  exact readsAs_of_isSpelledBy spelled rfl

/-- A symbol that is no part of a longer one is read before every text. -/
theorem opens_symbol
    (symbol : Token)
    (isSymbol : symbol.isSymbol = true)
    (ends : ∀ rest, symbol.EndsBefore rest) :
    Opens symbol.text [symbol] := by
  intro rest
  exact Token.scanAll_append_of_isSpelledBy (List.forall_mem_nil _)
    (Token.isSpelledBy_symbol isSymbol) (ends rest)

theorem opens_blank : Opens " " [] := by
  intro rest
  have skipped : Token.scan? (' ' :: rest) = Token.scan? rest := by
    rw [Token.scan?, dropBlanks, List.dropWhile_cons_of_pos isBlank_space]
    rfl
  change Token.scanAll (' ' :: rest) = Token.scanAll rest
  rw [Token.scanAll, skipped, Token.scanAll]

/-! ## Fragments in a row -/

variable {left right : String} {leftTokens rightTokens : List Token}

/-- A fragment that is read before every text is read before one that ends a token. -/
theorem Opens.readsAs
    (opens : Opens left leftTokens) :
    ReadsAs left leftTokens :=
  fun rest _ => opens rest

/-- Fragments that are each read before every text are so in a row. -/
theorem Opens.append
    (leftOpens : Opens left leftTokens)
    (rightOpens : Opens right rightTokens) :
    Opens (left ++ right) (leftTokens ++ rightTokens) := by
  intro rest
  rw [String.toList_append, List.append_assoc, leftOpens, rightOpens,
    List.append_assoc]

/-- A fragment that opens another one is read together with it. -/
theorem Opens.append_readsAs
    (leftOpens : Opens left leftTokens)
    (rightReads : ReadsAs right rightTokens) :
    ReadsAs (left ++ right) (leftTokens ++ rightTokens) := by
  intro rest ends
  rw [String.toList_append, List.append_assoc, leftOpens, rightReads rest ends,
    List.append_assoc]

/-- A fragment is read together with one that ends it. -/
theorem ReadsAs.append_separates
    (leftReads : ReadsAs left leftTokens)
    (rightSeparates : Separates right rightTokens) :
    Opens (left ++ right) (leftTokens ++ rightTokens) := by
  intro rest
  rw [String.toList_append, List.append_assoc,
    leftReads _ (rightSeparates.endsToken rest), rightSeparates.opens,
    List.append_assoc]

theorem separates_blank : Separates " " [] where
  opens := opens_blank
  endsToken := by simp

/-- What ends the token before it still does with more text after it. -/
theorem Separates.append
    (leftSeparates : Separates left leftTokens)
    (rightOpens : Opens right rightTokens) :
    Separates (left ++ right) (leftTokens ++ rightTokens) where
  opens := leftSeparates.opens.append rightOpens
  endsToken := by
    intro rest
    rw [String.toList_append, List.append_assoc]
    exact leftSeparates.endsToken _

/-- A reserved word with a blank after it. -/
theorem opens_keyword (keyword : Keyword) :
    Opens (keyword.text ++ " ") [.keyword keyword] :=
  (readsAs_keyword keyword).append_separates separates_blank

/-- A reserved word between blanks. -/
theorem separates_keyword (keyword : Keyword) :
    Separates (" " ++ (keyword.text ++ " ")) [.keyword keyword] :=
  separates_blank.append (opens_keyword keyword)

/-! ## The fixed texts -/

theorem separates_comma : Separates ", " [.comma] where
  opens := (opens_symbol .comma rfl fun _ => trivial).append opens_blank
  endsToken := by simp

theorem separates_equal : Separates " = " [.equal] :=
  separates_blank.append
    ((opens_symbol .equal rfl fun _ => trivial).append opens_blank)

theorem opens_openParen : Opens "(" [.openParen] :=
  opens_symbol .openParen rfl fun _ => trivial

theorem separates_closeParen : Separates ")" [.closeParen] where
  opens := opens_symbol .closeParen rfl fun _ => trivial
  endsToken := by simp

/-! ## Names, values and conditions -/

/-- A bare word is written as it is and read back as a name. -/
theorem writes_name
    {name : String}
    (bare : IsBareWord name.toList) :
    Writes Name name name := by
  have noQuote : beginsWithQuote name = false := by
    rw [← String.ofList_toList (s := name)]
    exact Token.beginsWithQuote_of_isWordPart bare.isWordPart
  have spelled : (Token.ident name).IsSpelledBy name.toList := ⟨rfl, Or.inl bare⟩
  exact ⟨_, readsAs_of_isSpelledBy spelled noQuote, .ident noQuote⟩

/-- Raw text is written between quotes and read back as a value. -/
theorem writes_value
    {value : String}
    (raw : IsRawLiteral value.toList) :
    Writes Value value (quoted value) := by
  have spelled : (Token.literal value).IsSpelledBy (quoted value).toList :=
    ⟨toList_quoted value, raw⟩
  exact ⟨_, readsAs_of_isSpelledBy spelled rfl, .literal⟩

/-- An operand is written by its kind, as a name or as a value. -/
theorem writes_operand
    {operand : Operand}
    (writable : operand.IsWritable) :
    Writes IsOperand operand operand.text := by
  cases operand with
  | field name =>
      obtain ⟨tokens, reads, named⟩ := writes_name writable
      exact ⟨tokens, reads, .field named⟩
  | value text =>
      obtain ⟨tokens, reads, valued⟩ := writes_value writable
      exact ⟨tokens, reads, .value valued⟩

/-- A comparison reads back as its own token, of one sign or of two. -/
theorem readsAs_comparison (comparison : Comparison) :
    ReadsAs comparison.text [comparison.token] := by
  rw [← Comparison.text_token]
  apply readsAs_of_isSpelledBy
  · exact Token.isSpelledBy_symbol (by cases comparison <;> rfl)
  · cases comparison <;> rfl

/-- A condition is written with blanks between its parts and read back as it is. -/
theorem writes_condition
    {condition : Condition}
    (writable : condition.IsWritable) :
    Writes IsCondition condition condition.text := by
  obtain ⟨leftTokens, leftReads, leftDerived⟩ := writes_operand writable.1
  obtain ⟨rightTokens, rightReads, rightDerived⟩ := writes_operand writable.2
  refine ⟨_, ?_, .compare leftDerived rightDerived⟩
  have leftOpens := leftReads.append_separates separates_blank
  have comparisonReads :=
    leftOpens.append_readsAs (readsAs_comparison condition.comparison)
  have comparisonOpens := comparisonReads.append_separates separates_blank
  simpa [Condition.text] using comparisonOpens.append_readsAs rightReads

/-- Several items with a separator between neighbours. -/
theorem writes_intercalate
    {separator : String}
    {separatorTokens : List Token}
    {Derives : α → List Token → Prop}
    {text : α → String}
    {items : List α}
    (separates : Separates separator separatorTokens)
    (someItems : items ≠ [])
    (each : ∀ item ∈ items, Writes Derives item (text item)) :
    Writes (Separated separatorTokens Derives) items
      (separator.intercalate (items.map text)) := by
  induction items with
  | nil => exact absurd rfl someItems
  | cons item items inductionHypothesis =>
      obtain ⟨first, others⟩ := List.forall_mem_cons.mp each
      obtain ⟨tokens, reads, derived⟩ := first
      cases items with
      | nil =>
          refine ⟨tokens, ?_, .single derived⟩
          rwa [List.map_singleton, String.intercalate_singleton]
      | cons next items =>
          obtain ⟨restTokens, restReads, restDerived⟩ :=
            inductionHypothesis (List.cons_ne_nil _ _) others
          refine ⟨_, ?_, .cons derived restDerived⟩
          rw [List.map_cons, List.map_cons, String.intercalate_cons_cons,
            ← List.append_assoc]
          exact (reads.append_separates separates).append_readsAs restReads

end SqlDialect
