import SqlDialect.Proofs.Description.Parts
import SqlDialect.Proofs.Spelling.Resumption
import SqlDialect.Shell.Invocation

/-!
# Descriptions are unambiguous

A description shows everything there is of a statement or a token: two of them with the
same description are the same, on one line as in a block (`descriptions_unambiguous`).
No description of a token has a character that ends a line, so a session that is asked
for the tokens of a text prints one line for each.
-/

namespace SqlDialect

open Description

/-! ## Statements -/

theorem Comparison.isAlpha_of_mem_name (comparison : Comparison) :
    ∀ letter ∈ comparison.name.toList, letter.isAlpha = true := by
  rw [← List.all_eq_true]
  cases comparison <;> decide

theorem StatementKind.isAlpha_of_mem_name (kind : StatementKind) :
    ∀ letter ∈ kind.name.toList, letter.isAlpha = true := by
  rw [← List.all_eq_true]
  cases kind <;> decide

/-- The description of a condition settles the condition. -/
theorem Condition.settles_description (left right : Condition) :
    left.description.Settles right.description (left = right) := by
  have comparisons := Settles.word left.comparison.isAlpha_of_mem_name
    right.comparison.isAlpha_of_mem_name
  refine (Settles.collection .brace
    (.cons ((Settles.text _ _).named "operand1")
      (.cons ((Settles.truth _ _).named "operand1_is_field")
        (.cons (comparisons.named "operator")
          (.cons ((Settles.text _ _).named "operand2")
            (.single ((Settles.truth _ _).named "operand2_is_field"))))))).mono ?_
  rintro ⟨leftContent, leftField, sameName, rightContent, rightField⟩
  have sameLeft : left.left = right.left := by
    rw [← left.left.ofContent_content_isField, leftContent, leftField,
      Operand.ofContent_content_isField]
  have sameRight : left.right = right.right := by
    rw [← left.right.ofContent_content_isField, rightContent, rightField,
      Operand.ofContent_content_isField]
  have sameComparison := Comparison.name_injective sameName
  obtain ⟨_, _, _⟩ := left
  obtain ⟨_, _, _⟩ := right
  simp only at sameLeft sameRight sameComparison
  rw [sameLeft, sameRight, sameComparison]

theorem Condition.opens_description (condition : Condition) :
    condition.description.Opens :=
  opens_collection rfl (by decide) _ _ _

/-- A sequence of texts settles the texts. -/
theorem settles_texts (left right : List String) :
    (sequence (left.map .text)).Settles (sequence (right.map .text)) (left = right) :=
  .items .bracket Settles.text opens_text left right

/-- The description of a statement settles the statement. -/
theorem Statement.settles_description (left right : Statement) :
    left.description.Settles right.description (left = right) := by
  have kinds := Settles.word left.kind.isAlpha_of_mem_name right.kind.isAlpha_of_mem_name
  have labels : Settles
      (mapping (left.labels.entries.map fun entry => (entry.1, .text entry.2)))
      (mapping (right.labels.entries.map fun entry => (entry.1, .text entry.2)))
      (left.labels.entries = right.labels.entries) := by
    rw [mapping, mapping, List.map_map, List.map_map]
    refine .items .mappingBrace ?_ ?_ _ _
    · intro leftEntry rightEntry
      exact ((Settles.text _ _).entry _ _).mono fun same => Prod.ext same.1 same.2
    · exact fun entry => opens_entry _ _
  have conditions : Settles (sequence (left.conditions.map Condition.description))
      (sequence (right.conditions.map Condition.description))
      (left.conditions = right.conditions) :=
    .items .bracket Condition.settles_description Condition.opens_description _ _
  have assignments : Settles
      (sequence (left.assignments.map fun assignment =>
        tuple "" [.text assignment.1, .text assignment.2]))
      (sequence (right.assignments.map fun assignment =>
        tuple "" [.text assignment.1, .text assignment.2]))
      (left.assignments = right.assignments) := by
    refine .items .bracket ?_ ?_ _ _
    · intro leftAssignment rightAssignment
      refine (Settles.collection .parenthesis
        (.cons (Settles.text _ _) (.single (Settles.text _ _)))).mono ?_
      exact fun same => Prod.ext same.1 same.2
    · exact fun assignment => opens_collection rfl (by decide) _ _ _
  have rows : Settles
      (sequence (left.rows.map fun row => sequence (row.map .text)))
      (sequence (right.rows.map fun row => sequence (row.map .text)))
      (left.rows = right.rows) :=
    .items .bracket settles_texts (fun row => opens_collection rfl (by decide) _ _ _) _ _
  refine (Settles.collection .brace
    (.cons (kinds.named "statement_type")
      (.cons ((Settles.text _ _).named "table_name")
        (.cons ((settles_texts _ _).named "fields")
          (.cons (labels.named "aliases")
            (.cons (conditions.named "conditions")
              (.cons (assignments.named "updates")
                (.single (rows.named "inserts"))))))))).mono ?_
  rintro ⟨sameKind, sameTable, sameFields, sameLabels, sameConditions, sameAssignments,
    sameRows⟩
  have sameMap := SortedMap.ext sameLabels
  have sameKinds := StatementKind.name_injective sameKind
  obtain ⟨_, _, _, _, _, _, _⟩ := left
  obtain ⟨_, _, _, _, _, _, _⟩ := right
  simp_all

/-! ## Tokens -/

namespace Token

/-- The class of a token, as its description names it. -/
def className : Token → String
  | literal _ => "Literal"
  | ident _ => "Ident"
  | keyword _ => "Keyword"
  | comma => "Comma"
  | openParen => "OpenParen"
  | closeParen => "CloseParen"
  | equal => "Equal"
  | notEqual => "NotEqual"
  | lessThan => "LessThan"
  | lessThanOrEqual => "LessThanOrEqual"
  | greaterThan => "GreaterThan"
  | greaterThanOrEqual => "GreaterThanOrEqual"
  | asterisk => "Asterisk"

/-- What the description of a token has after the name of its class. -/
def detail : Token → List Char
  | literal raw => '(' :: ((shownText raw).toList ++ [')'])
  | ident word => '(' :: ((shownText word).toList ++ [')'])
  | keyword reserved => '(' :: (reserved.name.toList ++ [')'])
  | _ => []

/-- On one line a token is its class and then what it holds. -/
theorem toList_description_line (token : Token) :
    (token.description .line).toList = token.className.toList ++ token.detail := by
  have inParentheses (name : String) (part : Description) :
      (tuple name [part] .line).toList =
        name.toList ++ '(' :: ((part .line).toList ++ [')']) := by
    rw [tuple, DescriptionLayout.toList_collection _ _ _ (List.cons_ne_nil _ _),
      String.toList_append, List.append_assoc]
    simp [DescriptionLayout.lead, DescriptionLayout.tail, DescriptionLayout.textsOf,
      DescriptionLayout.inner]
  cases token with
  | literal raw => exact inParentheses _ _
  | ident word => exact inParentheses _ _
  | keyword reserved => exact inParentheses _ _
  | _ => exact (List.append_nil _).symm

theorem isAlpha_of_mem_className (token : Token) :
    ∀ letter ∈ token.className.toList, letter.isAlpha = true := by
  rw [← List.all_eq_true]
  cases token <;> (rw [className]; decide)

/-- What a token holds begins with no letter, so that it ends the name of the class. -/
theorem detail_stops (token : Token) :
    ∀ mark ∈ token.detail.head?, mark.isAlpha = false := by
  cases token <;> simp [detail]

/-- The description of a token on one line tells the token. -/
theorem eq_of_description_line
    {left right : Token}
    (same : left.description .line = right.description .line) :
    left = right := by
  have sameLetters := congrArg String.toList same
  rw [toList_description_line, toList_description_line] at sameLetters
  obtain ⟨sameClass, sameDetail⟩ := append_inj_of_stops left.isAlpha_of_mem_className
    right.isAlpha_of_mem_className left.detail_stops right.detail_stops sameLetters
  rw [String.toList_inj] at sameClass
  cases left <;> cases right <;>
    first
      | rfl
      | exact absurd sameClass (by rw [className, className]; decide)
      | skip
  case literal.literal raw other =>
    rw [(shownText_append_inj (List.cons.inj sameDetail).2).1]
  case ident.ident word other =>
    rw [(shownText_append_inj (List.cons.inj sameDetail).2).1]
  case keyword.keyword reserved other =>
    have sameName := List.append_cancel_right (List.cons.inj sameDetail).2
    revert sameName
    cases reserved <;> cases other <;> decide

/-- No hidden character is left in the description of a token. -/
theorem isHidden_of_mem_description_line
    {token : Token}
    {shown : Char}
    (member : shown ∈ (token.description .line).toList) :
    isHidden shown = false := by
  have classes : ∀ letter ∈ token.className.toList, isPrinted letter = true := by
    rw [← List.all_eq_true]
    cases token <;> (rw [className]; decide)
  have names (reserved : Keyword) :
      ∀ letter ∈ reserved.name.toList, isPrinted letter = true := by
    rw [← List.all_eq_true]
    cases reserved <;> decide
  have inParentheses
      {letters : List Char}
      (visible : ∀ letter ∈ letters, isHidden letter = false) :
      ∀ mark ∈ '(' :: (letters ++ [')']), isHidden mark = false := by
    have parentheses : isPrinted '(' = true ∧ isPrinted ')' = true := by decide
    simp only [List.forall_mem_cons, List.forall_mem_append]
    exact ⟨isHidden_eq_false_of_isPrinted parentheses.1, visible,
      isHidden_eq_false_of_isPrinted parentheses.2, List.forall_mem_nil _⟩
  have details : ∀ mark ∈ token.detail, isHidden mark = false := by
    cases token with
    | literal raw => exact inParentheses fun _ => isHidden_of_mem_shownText
    | ident word => exact inParentheses fun _ => isHidden_of_mem_shownText
    | keyword reserved =>
        exact inParentheses fun letter member =>
          isHidden_eq_false_of_isPrinted (names reserved letter member)
    | _ => exact List.forall_mem_nil _
  rw [toList_description_line, List.mem_append] at member
  rcases member with inClass | inDetail
  · exact isHidden_eq_false_of_isPrinted (classes shown inClass)
  · exact details shown inDetail

end Token

/-! ## Lines of tokens -/

/-- The characters that end a line. -/
def lineEnds : List Char :=
  ['\n', '\x0b', '\x0c', '\r', '\u0085', '\u2028', '\u2029']

/-- All characters that end a line are among those that are never shown as they are. -/
theorem isHidden_of_mem_lineEnds :
    ∀ character ∈ lineEnds, isHidden character = true := by
  rw [← List.all_eq_true]
  decide +kernel

/-- Printed texts that do not break their line are the lines of what is printed. -/
theorem splitOn_printedText
    {texts : List String}
    (unbroken : ∀ text ∈ texts, '\n' ∉ text.toList) :
    (printedText texts).toList.splitOn '\n' = texts.map String.toList ++ [[]] := by
  induction texts with
  | nil => rfl
  | cons text texts inductionHypothesis =>
      obtain ⟨textUnbroken, othersUnbroken⟩ := List.forall_mem_cons.mp unbroken
      have printed : (printedText (text :: texts)).toList =
          text.toList ++ '\n' :: (printedText texts).toList := by
        simp [printedText]
      have noBreak : ∀ letter ∈ text.toList, (letter == '\n') = false := by
        rintro letter member
        exact beq_false_of_ne fun same => textUnbroken (same ▸ member)
      rw [printed, List.splitOn, List.splitOnP_append_cons_of_forall_mem noBreak _ (by decide)]
      exact congrArg (text.toList :: ·) (inductionHypothesis othersUnbroken)

/-- A session that is asked for the tokens of a text prints their descriptions. -/
theorem Session.respond_tokens
    {text : String}
    (notBlank : isAllBlank text.toList = false)
    (session : Session) :
    session.respond ("!tokens " ++ text) =
      .ok ((tokensOf (String.ofList (trimBlanks text.toList))).map (·.description .line),
        session) := by
  have entry : ("!tokens " ++ text).toList = "!tokens".toList ++ ' ' :: text.toList := by
    simp
  have name : ∀ letter ∈ "!tokens".toList, (!isBlank letter) = true := by
    rw [← List.all_eq_true]
    decide
  have parts : Command.split ("!tokens " ++ text).toList =
      ("!tokens", String.ofList (trimBlanks text.toList)) := by
    rw [Command.split, entry, List.takeWhile_append_of_pos name,
      List.dropWhile_append_of_pos name,
      List.takeWhile_cons_of_neg (by decide), List.dropWhile_cons_of_neg (by decide)]
    rfl
  have something : ¬String.ofList (trimBlanks text.toList) = "" := by
    rw [← String.toList_inj, String.toList_ofList]
    exact trimBlanks_ne_nil notBlank
  have command : isCommand ("!tokens " ++ text).toList = true := by
    rw [entry]
    rfl
  rw [respond, if_pos command, respondToCommand, Command.ofEntry, parts, Command.named,
    if_neg (by change ¬"!tokens" = "!help"; decide),
    if_neg (by change ¬"!tokens" = "!format"; decide), if_pos rfl, if_neg something]
  rfl

/-- Two statements with the same description, on one line or in a block, are the same,
whatever texts they have. What a session prints when it is asked for the tokens of a
text is a line for each token of the trimmed text, in their order: no description of a
token has a character that ends a line, and tokens with the same line are the same. -/
theorem descriptions_unambiguous :
    (∀ left right : Statement,
      left.description .line = right.description .line → left = right) ∧
    (∀ left right : Statement,
      OutputFormat.debug.render left = OutputFormat.debug.render right → left = right) ∧
    (∀ left right : Token,
      left.description .line = right.description .line → left = right) ∧
    (∀ token : Token, ∀ mark ∈ lineEnds, mark ∉ (token.description .line).toList) ∧
    ∀ (session : Session) (text : String), isAllBlank text.toList = false →
      let lines := (tokensOf (String.ofList (trimBlanks text.toList))).map
        (·.description .line)
      session.respond ("!tokens " ++ text) = .ok (lines, session) ∧
      (printedText lines).toList.splitOn '\n' = lines.map String.toList ++ [[]] := by
  have unbroken (token : Token) :
      ∀ mark ∈ lineEnds, mark ∉ (token.description .line).toList := by
    intro mark ends member
    have visible := Token.isHidden_of_mem_description_line member
    rw [isHidden_of_mem_lineEnds mark ends] at visible
    cases visible
  refine ⟨?_, ?_, fun _ _ => Token.eq_of_description_line, unbroken, ?_⟩
  · exact fun left right => (Statement.settles_description left right).fact_of_eq
  · exact fun left right => (Statement.settles_description left right).fact_of_eq
  · intro session text notBlank lines
    refine ⟨session.respond_tokens notBlank, splitOn_printedText ?_⟩
    intro line isLine
    obtain ⟨token, -, rfl⟩ := List.mem_map.mp isLine
    exact unbroken token '\n' (by decide)

/-- Assigning anew shows as assigning once, in both layouts, so it is the same. A literal
with a line break and a quote is printed on one line. -/
theorem descriptions_unambiguous_quotedBreak :
    let twice := ((Statement.ofTable .update "\"").assign "a\\" "1").assign "a\\" "),\n("
    let once := (Statement.ofTable .update "\"").assign "a\\" "),\n("
    (twice.description .line = once.description .line ∧ twice = once) ∧
    (OutputFormat.debug.render twice = OutputFormat.debug.render once ∧ twice = once) ∧
    ((Token.ofWord ['a', 'n', 'D']).description .line =
        (Token.keyword .AND).description .line ∧
      Token.ofWord ['a', 'n', 'D'] = .keyword .AND) ∧
    '\n' ∉ ((Token.literal "\n").description .line).toList ∧
    isAllBlank "\u3000'\n\"'And ".toList = false ∧
    (Session.mk .sql).respond ("!tokens " ++ "\u3000'\n\"'And ") =
      .ok (["Literal(\"\\n\\\"\")", "Keyword(And)"], ⟨.sql⟩) ∧
    (printedText ["Literal(\"\\n\\\"\")", "Keyword(And)"]).toList.splitOn '\n' =
      ["Literal(\"\\n\\\"\")".toList, "Keyword(And)".toList, []] := by
  intro twice once
  have sameLine : twice.description .line = once.description .line := rfl
  have sameBlock : OutputFormat.debug.render twice = OutputFormat.debug.render once := rfl
  have sameToken : (Token.ofWord ['a', 'n', 'D']).description .line =
      (Token.keyword .AND).description .line := by decide +kernel
  have notBlank : isAllBlank "\u3000'\n\"'And ".toList = false := by decide +kernel
  have lines : (tokensOf (String.ofList (trimBlanks "\u3000'\n\"'And ".toList))).map
      (·.description .line) = ["Literal(\"\\n\\\"\")", "Keyword(And)"] := by decide +kernel
  obtain ⟨onLine, inBlock, tokens, unbroken, printed⟩ := descriptions_unambiguous
  obtain ⟨responds, splits⟩ := printed ⟨.sql⟩ _ notBlank
  rw [lines] at responds splits
  exact ⟨⟨sameLine, onLine _ _ sameLine⟩, ⟨sameBlock, inBlock _ _ sameBlock⟩,
    ⟨sameToken, tokens _ _ sameToken⟩, unbroken _ '\n' (by decide), notBlank, responds,
    splits⟩

end SqlDialect
