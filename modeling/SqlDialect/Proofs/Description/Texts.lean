import Mathlib.Tactic.SplitIfs
import SqlDialect.Description

/-!
# Texts in descriptions

A text stands in a description between quotes, with some of its characters escaped. What
a character is shown as tells the character and where it ends, and a quote inside is
never shown as a quote, so a shown text can be read back wherever it stands
(`shownText_append_inj`). No hidden character is left in it, and these include all that
end a line (`isHidden_of_mem_shownText`).
-/

namespace SqlDialect

/-- Two texts that go on with the same kind of character as long as they can, and then
stop, are the same if what they are followed by makes them the same. -/
theorem append_inj_of_stops
    {goesOn : α → Bool}
    {left right leftRest rightRest : List α}
    (leftGoes : ∀ item ∈ left, goesOn item = true)
    (rightGoes : ∀ item ∈ right, goesOn item = true)
    (leftStops : ∀ item ∈ leftRest.head?, goesOn item = false)
    (rightStops : ∀ item ∈ rightRest.head?, goesOn item = false)
    (same : left ++ leftRest = right ++ rightRest) :
    left = right ∧ leftRest = rightRest := by
  have taken
      {front rest : List α}
      (goes : ∀ item ∈ front, goesOn item = true)
      (stops : ∀ item ∈ rest.head?, goesOn item = false) :
      (front ++ rest).takeWhile goesOn = front := by
    rw [List.takeWhile_append_of_pos goes]
    cases rest with
    | nil => simp
    | cons item rest => simp [stops item rfl]
  have sameFront : left = right := by
    rw [← taken leftGoes leftStops, same, taken rightGoes rightStops]
  subst sameFront
  exact ⟨rfl, List.append_cancel_left same⟩

/-! ## Code points -/

/-- The digits of a number in base 16 tell the number. -/
theorem toDigits_sixteen_inj
    {left right : Nat}
    (same : Nat.toDigits 16 left = Nat.toDigits 16 right) :
    left = right := by
  have digit : ∀ first < 16, ∀ second < 16,
      Nat.digitChar first = Nat.digitChar second → first = second := by decide
  have oneDigit (number : Nat) : (Nat.toDigits 16 number).length ≤ 1 ↔ number < 16 :=
    Nat.length_toDigits_le_iff (by decide) (by decide)
  induction left using Nat.strongRecOn generalizing right with
  | ind left inductionHypothesis =>
      have together : left < 16 ↔ right < 16 := by
        rw [← oneDigit, ← oneDigit, same]
      by_cases small : left < 16
      · have rightSmall := together.mp small
        rw [Nat.toDigits_of_lt_base small, Nat.toDigits_of_lt_base rightSmall] at same
        exact digit left small right rightSmall (List.singleton_inj.mp same)
      · have leftLarge : 16 ≤ left := Nat.le_of_not_lt small
        have rightLarge : 16 ≤ right := Nat.le_of_not_lt (mt together.mpr small)
        rw [Nat.toDigits_of_base_le (by decide) leftLarge,
          Nat.toDigits_of_base_le (by decide) rightLarge] at same
        obtain ⟨front, last⟩ := List.append_inj' same rfl
        have sameQuotient := inductionHypothesis (left / 16) (by omega) front
        have sameDigit := digit _ (Nat.mod_lt left (by decide)) _
          (Nat.mod_lt right (by decide)) (List.singleton_inj.mp last)
        omega

/-- Every digit of a number in base 16 is that of a number below 16. -/
theorem exists_of_mem_toDigits_sixteen
    {number : Nat}
    {digit : Char}
    (member : digit ∈ Nat.toDigits 16 number) :
    ∃ value < 16, digit = Nat.digitChar value := by
  induction number using Nat.strongRecOn with
  | ind number inductionHypothesis =>
      by_cases small : number < 16
      · rw [Nat.toDigits_of_lt_base small, List.mem_singleton] at member
        exact ⟨number, small, member⟩
      · have large : 16 ≤ number := Nat.le_of_not_lt small
        rw [Nat.toDigits_of_base_le (by decide) large, List.mem_append,
          List.mem_singleton] at member
        rcases member with inFront | isLast
        · exact inductionHypothesis (number / 16) (by omega) inFront
        · exact ⟨number % 16, Nat.mod_lt _ (by decide), isLast⟩

/-- The digits of a code point end before the brace that closes them. -/
theorem not_closes_of_mem_toDigits
    {number : Nat} :
    ∀ digit ∈ Nat.toDigits 16 number, (digit != '\x7d') = true := by
  intro digit member
  obtain ⟨value, small, rfl⟩ := exists_of_mem_toDigits_sixteen member
  have all : ∀ value < 16, (Nat.digitChar value != '\x7d') = true := by decide
  exact all value small

/-! ## Characters -/

/-- Whether a character is one of ASCII that is printed. -/
def isPrinted (character : Char) : Bool :=
  0x20 ≤ character.toNat && character.toNat ≤ 0x7E

/-- No character of ASCII that is printed is hidden. -/
theorem isHidden_eq_false_of_isPrinted
    {character : Char}
    (printed : isPrinted character = true) :
    isHidden character = false := by
  have beside : ∀ range ∈ hiddenRanges, range.2 < 0x20 ∨ 0x7E < range.1 := by
    decide +kernel
  simp only [isPrinted, Bool.and_eq_true, decide_eq_true_eq] at printed
  rw [Bool.eq_false_iff, isHidden, Ne, inCodeRanges_iff]
  rintro ⟨range, member, first, last⟩
  have apart := beside range member
  omega

/-- The characters that have an escape of their own, and what it is. -/
def namedEscapes : List (Char × Char) :=
  [('"', '"'), ('\\', '\\'), ('\n', 'n'), ('\r', 'r'), ('\t', 't'), ('\x00', '0')]

/-- A character is shown as its own escape, by its code point, or as it is. -/
theorem shownCharacter_cases (character : Char) :
    (∃ mark,
      (character, mark) ∈ namedEscapes ∧ shownCharacter character = ['\\', mark]) ∨
    (shownCharacter character =
      '\\' :: 'u' :: '\x7b' :: (Nat.toDigits 16 character.toNat ++ ['\x7d'])) ∨
    (character ≠ '"' ∧ character ≠ '\\' ∧ isHidden character = false ∧
      shownCharacter character = [character]) := by
  unfold shownCharacter
  split_ifs with isQuote isMark isBreak isReturn isTab isZero hidden
  · exact .inl ⟨'"', by simp [isQuote, namedEscapes], rfl⟩
  · exact .inl ⟨'\\', by simp [isMark, namedEscapes], rfl⟩
  · exact .inl ⟨'n', by simp [isBreak, namedEscapes], rfl⟩
  · exact .inl ⟨'r', by simp [isReturn, namedEscapes], rfl⟩
  · exact .inl ⟨'t', by simp [isTab, namedEscapes], rfl⟩
  · exact .inl ⟨'0', by simp [isZero, namedEscapes], rfl⟩
  · exact .inr (.inl rfl)
  · exact .inr (.inr ⟨isQuote, isMark, Bool.eq_false_iff.mpr hidden, rfl⟩)

/-- What a character is shown as tells the character and where it ends. -/
theorem shownCharacter_append_inj
    {left right : Char}
    {leftRest rightRest : List Char}
    (same : shownCharacter left ++ leftRest = shownCharacter right ++ rightRest) :
    left = right ∧ leftRest = rightRest := by
  have marks : ∀ first ∈ namedEscapes, ∀ second ∈ namedEscapes,
      first.2 = second.2 → first.1 = second.1 := by decide
  have notCode : ∀ escape ∈ namedEscapes, escape.2 ≠ 'u' := by decide
  -- Of the nine pairs of ways only the three of one way with itself can agree.
  rcases shownCharacter_cases left with
    ⟨mark, isNamed, shown⟩ | shown | ⟨-, notMark, -, shown⟩ <;>
    rcases shownCharacter_cases right with
      ⟨otherMark, otherNamed, otherShown⟩ | otherShown |
      ⟨-, otherNotMark, -, otherShown⟩ <;>
    rw [shown, otherShown] at same
  · simp only [List.cons_append, List.nil_append, List.cons.injEq, true_and] at same
    exact ⟨marks _ isNamed _ otherNamed same.1, same.2⟩
  · simp only [List.cons_append, List.nil_append, List.cons.injEq, true_and] at same
    exact absurd same.1 (notCode _ isNamed)
  · exact absurd (List.cons.inj same).1.symm otherNotMark
  · simp only [List.cons_append, List.nil_append, List.cons.injEq, true_and] at same
    exact absurd same.1.symm (notCode _ otherNamed)
  · simp only [List.cons_append, List.append_assoc, List.nil_append, List.cons.injEq,
      true_and] at same
    obtain ⟨sameDigits, sameRest⟩ := append_inj_of_stops not_closes_of_mem_toDigits
      not_closes_of_mem_toDigits (by simp) (by simp) same
    exact ⟨Char.toNat_inj.mp (toDigits_sixteen_inj sameDigits),
      List.tail_eq_of_cons_eq sameRest⟩
  · exact absurd (List.cons.inj same).1.symm otherNotMark
  · exact absurd (List.cons.inj same).1 notMark
  · exact absurd (List.cons.inj same).1 notMark
  · exact List.cons.inj same

/-- What a character is shown as does not begin with the quote that ends a text. -/
theorem exists_shownCharacter (character : Char) :
    ∃ first others, shownCharacter character = first :: others ∧ first ≠ '"' := by
  rcases shownCharacter_cases character with
    ⟨mark, -, shown⟩ | shown | ⟨notQuote, -, -, shown⟩
  · exact ⟨_, _, shown, by decide⟩
  · exact ⟨_, _, shown, by decide⟩
  · exact ⟨_, _, shown, notQuote⟩

/-- No hidden character is left in what a character is shown as. -/
theorem isHidden_of_mem_shownCharacter
    {character shown : Char}
    (member : shown ∈ shownCharacter character) :
    isHidden shown = false := by
  have marks : ∀ escape ∈ namedEscapes, isPrinted escape.2 = true := by decide
  have digits : ∀ value < 16, isPrinted (Nat.digitChar value) = true := by decide
  have frame : ∀ mark ∈ ['\\', 'u', '\x7b', '\x7d'], isPrinted mark = true := by
    rw [← List.all_eq_true]
    decide
  rcases shownCharacter_cases character with
    ⟨mark, isNamed, isShown⟩ | isShown | ⟨-, -, visible, isShown⟩ <;>
    rw [isShown] at member
  · apply isHidden_eq_false_of_isPrinted
    rcases List.mem_cons.mp member with rfl | isMark
    · exact frame _ (by simp)
    · rw [List.mem_singleton.mp isMark]
      exact marks _ isNamed
  · apply isHidden_eq_false_of_isPrinted
    simp only [List.mem_cons, List.mem_append, List.not_mem_nil, or_false] at member
    rcases member with rfl | rfl | rfl | isDigit | rfl
    · exact frame _ (by simp)
    · exact frame _ (by simp)
    · exact frame _ (by simp)
    · obtain ⟨value, small, rfl⟩ := exists_of_mem_toDigits_sixteen isDigit
      exact digits value small
    · exact frame _ (by simp)
  · rw [List.mem_singleton.mp member]
    exact visible

/-! ## Texts -/

/-- No character of a text is shown as the quote that ends the text. -/
theorem shownCharacter_append_ne
    (character : Char)
    (rest otherRest : List Char) :
    shownCharacter character ++ rest ≠ '"' :: otherRest := by
  obtain ⟨first, others, shown, notQuote⟩ := exists_shownCharacter character
  rw [shown]
  intro same
  exact notQuote (List.cons.inj same).1

/-- The closing quote of a shown text can be found, since a quote within the text is shown
after a backslash. -/
theorem shownCharacters_append_inj
    {left right leftRest rightRest : List Char}
    (same : left.flatMap shownCharacter ++ '"' :: leftRest =
      right.flatMap shownCharacter ++ '"' :: rightRest) :
    left = right ∧ leftRest = rightRest := by
  induction left generalizing right with
  | nil =>
      cases right with
      | nil => exact ⟨rfl, (List.cons.inj same).2⟩
      | cons character right =>
          rw [List.flatMap_nil, List.flatMap_cons, List.append_assoc] at same
          exact absurd same.symm (shownCharacter_append_ne character _ _)
  | cons character left inductionHypothesis =>
      cases right with
      | nil =>
          rw [List.flatMap_nil, List.flatMap_cons, List.append_assoc] at same
          exact absurd same (shownCharacter_append_ne character _ _)
      | cons other right =>
          rw [List.flatMap_cons, List.flatMap_cons, List.append_assoc,
            List.append_assoc] at same
          obtain ⟨rfl, sameTail⟩ := shownCharacter_append_inj same
          obtain ⟨rfl, sameRest⟩ := inductionHypothesis sameTail
          exact ⟨rfl, sameRest⟩

/-- A text is shown between quotes, character by character. -/
theorem toList_shownText (text : String) :
    (shownText text).toList = '"' :: (text.toList.flatMap shownCharacter ++ ['"']) := by
  rw [shownText, String.toList_ofList]

/-- A shown text tells the text and where it ends. -/
theorem shownText_append_inj
    {left right : String}
    {leftRest rightRest : List Char}
    (same : (shownText left).toList ++ leftRest = (shownText right).toList ++ rightRest) :
    left = right ∧ leftRest = rightRest := by
  rw [toList_shownText, toList_shownText, List.cons_append, List.cons_append,
    List.append_assoc, List.append_assoc] at same
  obtain ⟨sameLetters, sameRest⟩ := shownCharacters_append_inj (List.cons.inj same).2
  exact ⟨String.toList_inj.mp sameLetters, sameRest⟩

/-- No hidden character is left in a shown text. -/
theorem isHidden_of_mem_shownText
    {text : String}
    {shown : Char}
    (member : shown ∈ (shownText text).toList) :
    isHidden shown = false := by
  have quote : isHidden '"' = false := isHidden_eq_false_of_isPrinted (by decide)
  rw [toList_shownText, List.mem_cons, List.mem_append, List.mem_singleton,
    List.mem_flatMap] at member
  rcases member with rfl | ⟨character, -, inCharacter⟩ | rfl
  · exact quote
  · exact isHidden_of_mem_shownCharacter inCharacter
  · exact quote

end SqlDialect
