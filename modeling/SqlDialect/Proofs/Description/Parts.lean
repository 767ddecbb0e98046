import SqlDialect.Proofs.Description.Texts

/-!
# Parts of descriptions

Two descriptions settle a fact if their texts are never the same, in either layout and
at any depth, unless the fact holds (`Description.Settles`). What follows the two texts
may differ, as long as it does not go on with a word: the texts are the same as soon as
all that is written is.

The facts that the parts of two collections settle are settled by the collections. The
brackets and what separates the parts tell where a part ends and whether another one
comes (`Description.Settles.collection`, `Description.Settles.items`).
-/

namespace SqlDialect

/-! ## Both layouts of a collection -/

/-- The characters that close a collection. -/
def closers : List Char := ['\x7d', ']', ')']

namespace DescriptionLayout

/-- The layout of the parts of a collection. -/
def inner : DescriptionLayout → DescriptionLayout
  | line => line
  | block depth => block (depth + 1)

/-- What stands before the first part of a collection. -/
def lead (padding : List Char) : DescriptionLayout → List Char
  | line => padding
  | block depth => '\n' :: (indentation (depth + 1)).toList

/-- What stands between two parts of a collection. -/
def between : DescriptionLayout → List Char
  | line => [',', ' ']
  | block depth => ',' :: '\n' :: (indentation (depth + 1)).toList

/-- What stands after the last part of a collection. -/
def tail (padding : List Char) : DescriptionLayout → List Char
  | line => padding
  | block depth => ',' :: '\n' :: (indentation depth).toList

/-- The texts of the parts of a collection. -/
def textsOf (layout : DescriptionLayout) (parts : List Description) : List (List Char) :=
  parts.map fun part => (part layout.inner).toList

theorem toList_indentation (depth : Nat) :
    (indentation depth).toList = List.replicate (4 * depth) ' ' :=
  String.toList_ofList

theorem toList_indentation_succ (depth : Nat) :
    (indentation (depth + 1)).toList =
      (indentation depth).toList ++ List.replicate 4 ' ' := by
  rw [toList_indentation, toList_indentation, List.replicate_append_replicate, Nat.mul_succ]

/-- Lines that begin and end alike are texts with the same between neighbours. -/
theorem flatMap_lines
    (start finish : List Char)
    {texts : List (List Char)}
    (nonempty : texts ≠ []) :
    texts.flatMap (fun text => start ++ (text ++ finish)) =
      start ++ ((finish ++ start).intercalate texts ++ finish) := by
  induction texts with
  | nil => exact absurd rfl nonempty
  | cons text texts inductionHypothesis =>
      cases texts with
      | nil => simp
      | cons next texts =>
          have others := inductionHypothesis (List.cons_ne_nil next texts)
          rw [List.flatMap_cons, others, List.intercalate_cons_cons]
          simp only [List.append_assoc]

/-- In both layouts the parts of a collection stand between its brackets, with the same
between neighbours. -/
theorem toList_collection
    (opening padding closing : String)
    {parts : List Description}
    (nonempty : parts ≠ [])
    (layout : DescriptionLayout) :
    (collection opening padding closing parts layout).toList =
      opening.toList ++
        (layout.lead padding.toList ++
          (layout.between.intercalate (layout.textsOf parts) ++
            (layout.tail padding.toList ++ closing.toList))) := by
  have notEmpty : ¬parts.isEmpty = true := by
    rwa [List.isEmpty_iff]
  cases layout with
  | line =>
      rw [collection, if_neg notEmpty]
      simp only [String.toList_append, String.toList_intercalate, List.map_map,
        Function.comp_def, List.append_assoc]
      rfl
  | block depth =>
      have texts : (block depth).textsOf parts ≠ [] := by
        rwa [textsOf, Ne, List.map_eq_nil_iff]
      have lines := flatMap_lines (indentation (depth + 1)).toList ",\n".toList texts
      rw [textsOf, List.flatMap_map] at lines
      rw [collection, if_neg notEmpty]
      simp only [String.toList_append, String.toList_join, List.flatMap_map,
        List.append_assoc]
      refine congrArg (opening.toList ++ ·) ?_
      refine congrArg ("\n".toList ++ ·) ?_
      refine (congrArg (· ++ _) lines).trans ?_
      simp only [List.append_assoc]
      rfl

/-- Without items the two ends of a collection stand together, in both layouts. -/
theorem toList_collection_nil
    (opening padding closing : String)
    (layout : DescriptionLayout) :
    (collection opening padding closing [] layout).toList =
      opening.toList ++ closing.toList := by
  cases layout with
  | line => exact String.toList_append
  | block depth => exact String.toList_append

/-- What separates two parts is never what stands after the last one. -/
theorem between_append_ne
    {padding closing : List Char}
    (pads : padding ∈ [[], [' ']])
    (closes : ∃ closer ∈ closers, closing = [closer])
    (layout : DescriptionLayout)
    (rest otherRest : List Char) :
    layout.between ++ rest ≠ layout.tail padding ++ (closing ++ otherRest) := by
  obtain ⟨closer, isCloser, rfl⟩ := closes
  have notBlank : closer ≠ ' ' := by
    rintro rfl
    exact absurd isCloser (by decide)
  have notComma : closer ≠ ',' := by
    rintro rfl
    exact absurd isCloser (by decide)
  intro same
  cases layout with
  | line =>
      simp only [List.mem_cons, List.not_mem_nil, or_false] at pads
      rcases pads with rfl | rfl
      · exact notComma (List.cons.inj same).1.symm
      · exact absurd (List.cons.inj same).1 (by decide)
  | block depth =>
      -- Only the depth of the indentation tells the two apart.
      have indented : (indentation (depth + 1)).toList ++ rest =
          (indentation depth).toList ++ ([closer] ++ otherRest) :=
        (List.cons.inj (List.cons.inj same).2).2
      rw [toList_indentation_succ, List.append_assoc, List.append_right_inj] at indented
      exact notBlank (List.cons.inj indented).1.symm

end DescriptionLayout

/-! ## Settled facts -/

/-- What comes next does not go on with a word. -/
def EndsWord (rest : List Char) : Prop :=
  ∀ next ∈ rest.head?, next.isAlpha = false

namespace Description

/-- The texts of two descriptions are the same, up to what follows them, only if a fact
holds. -/
def Settles (left right : Description) (fact : Prop) : Prop :=
  ∀ layout leftRest rightRest,
    EndsWord leftRest → EndsWord rightRest →
    (left layout).toList ++ leftRest = (right layout).toList ++ rightRest →
    fact ∧ leftRest = rightRest

namespace Settles

variable
  {left right : Description}
  {fact : Prop}

/-- What settles a fact settles what follows from it. -/
theorem mono
    {weaker : Prop}
    (settles : left.Settles right fact)
    (implies : fact → weaker) :
    left.Settles right weaker := by
  intro layout leftRest rightRest leftEnds rightEnds same
  exact (settles layout leftRest rightRest leftEnds rightEnds same).imp_left implies

/-- So descriptions that settle a fact have different texts if it does not hold. -/
theorem fact_of_eq
    (settles : left.Settles right fact)
    {layout : DescriptionLayout}
    (same : left layout = right layout) :
    fact := by
  have nothingFollows : EndsWord [] := by simp [EndsWord]
  refine (settles layout [] [] nothingFollows nothingFollows ?_).1
  rw [same]

/-- Words tell themselves apart, since no letter follows them. -/
theorem word
    {leftWord rightWord : String}
    (leftLetters : ∀ letter ∈ leftWord.toList, letter.isAlpha = true)
    (rightLetters : ∀ letter ∈ rightWord.toList, letter.isAlpha = true) :
    (Description.word leftWord).Settles (Description.word rightWord)
      (leftWord = rightWord) := by
  intro layout leftRest rightRest leftEnds rightEnds same
  exact (append_inj_of_stops leftLetters rightLetters leftEnds rightEnds same).imp_left
    String.toList_inj.mp

/-- The two truth values are described by words with different first letters. -/
theorem truth (leftValue rightValue : Bool) :
    (Description.truth leftValue).Settles (Description.truth rightValue)
      (leftValue = rightValue) := by
  have letters (value : Bool) :
      ∀ letter ∈ (if value then "true" else "false").toList, letter.isAlpha = true := by
    rw [← List.all_eq_true]
    cases value <;> decide
  refine (word (letters leftValue) (letters rightValue)).mono ?_
  cases leftValue <;> cases rightValue <;> decide

/-- Texts are told apart by their descriptions, since their closing quotes can be
found. -/
theorem text (leftText rightText : String) :
    (Description.text leftText).Settles (Description.text rightText)
      (leftText = rightText) :=
  fun _ _ _ _ _ same => shownText_append_inj same

/-- A name in front of two parts alike leaves them as different as they are. -/
theorem named
    (settles : left.Settles right fact)
    (name : String) :
    (Description.named (name, left)).Settles (Description.named (name, right)) fact := by
  intro layout leftRest rightRest leftEnds rightEnds same
  apply settles layout leftRest rightRest leftEnds rightEnds
  simp only [Description.named, String.toList_append, List.append_assoc] at same
  exact List.append_cancel_left (List.append_cancel_left same)

/-- An entry of a mapping settles its key too. -/
theorem entry
    (settles : left.Settles right fact)
    (leftKey rightKey : String) :
    (Description.named (shownText leftKey, left)).Settles
      (Description.named (shownText rightKey, right)) (leftKey = rightKey ∧ fact) := by
  intro layout leftRest rightRest leftEnds rightEnds same
  simp only [Description.named, String.toList_append, List.append_assoc] at same
  obtain ⟨rfl, sameValues⟩ := shownText_append_inj same
  have sameRests := settles layout leftRest rightRest leftEnds rightEnds
    (List.append_cancel_left sameValues)
  exact ⟨⟨rfl, sameRests.1⟩, sameRests.2⟩

end Settles

/-! ## Lists of parts -/

/-- The texts of two lists of parts are the same, up to what closes the lists and what
follows, only if a fact holds. -/
def PartsSettle (left right : List Description) (fact : Prop) : Prop :=
  ∀ (layout : DescriptionLayout) (stop leftRest rightRest : List Char),
    EndsWord stop → stop ≠ [] →
    (∀ rest otherRest, layout.between ++ rest ≠ stop ++ otherRest) →
    layout.between.intercalate (layout.textsOf left) ++ (stop ++ leftRest) =
      layout.between.intercalate (layout.textsOf right) ++ (stop ++ rightRest) →
    fact ∧ leftRest = rightRest

theorem endsWord_between_append (layout : DescriptionLayout) (rest : List Char) :
    EndsWord (layout.between ++ rest) := by
  intro next isNext
  cases layout <;> (obtain rfl := Option.some.inj isNext; decide)

/-- A word ends before a text by the first character of it. -/
theorem endsWord_append
    {stop : List Char}
    (ends : EndsWord stop)
    (nonempty : stop ≠ [])
    (rest : List Char) :
    EndsWord (stop ++ rest) := by
  cases stop with
  | nil => exact absurd rfl nonempty
  | cons next others => exact ends

namespace PartsSettle

variable
  {left right leftNext rightNext : Description}
  {leftParts rightParts : List Description}
  {fact othersFact : Prop}

/-- A single part settles what it does by itself. -/
theorem single (settles : left.Settles right fact) :
    PartsSettle [left] [right] fact := by
  intro layout stop leftRest rightRest ends nonempty _ same
  simp only [DescriptionLayout.textsOf, List.map_singleton,
    List.intercalate_singleton] at same
  have settled := settles layout.inner _ _ (endsWord_append ends nonempty leftRest)
    (endsWord_append ends nonempty rightRest) same
  exact settled.imp_right List.append_cancel_left

/-- Parts settle what the first ones and the others settle. -/
theorem cons
    (settles : left.Settles right fact)
    (othersSettle :
      PartsSettle (leftNext :: leftParts) (rightNext :: rightParts) othersFact) :
    PartsSettle (left :: leftNext :: leftParts) (right :: rightNext :: rightParts)
      (fact ∧ othersFact) := by
  intro layout stop leftRest rightRest ends nonempty apart same
  simp only [DescriptionLayout.textsOf, List.map_cons, List.intercalate_cons_cons,
    List.append_assoc] at same
  obtain ⟨settled, sameOthers⟩ := settles layout.inner _ _
    (endsWord_between_append layout _) (endsWord_between_append layout _) same
  have othersSettled := othersSettle layout stop leftRest rightRest ends nonempty apart
    (List.append_cancel_left sameOthers)
  exact ⟨⟨settled, othersSettled.1⟩, othersSettled.2⟩

/-- Parts of one kind settle which parts there are. -/
theorem map
    {describe : α → Description}
    (settles : ∀ leftItem rightItem,
      (describe leftItem).Settles (describe rightItem) (leftItem = rightItem))
    (leftItem rightItem : α)
    (leftItems rightItems : List α) :
    PartsSettle ((leftItem :: leftItems).map describe)
      ((rightItem :: rightItems).map describe)
      (leftItem :: leftItems = rightItem :: rightItems) := by
  have first := settles leftItem rightItem
  -- Where the numbers of items differ, one text ends where the other one goes on, and an
  -- end is unlike what stands between two items.
  induction leftItems generalizing leftItem rightItem rightItems with
  | nil =>
      cases rightItems with
      | nil =>
          intro layout stop leftRest rightRest ends nonempty apart same
          refine (single first layout stop _ _ ends nonempty apart same).imp_left ?_
          rintro rfl
          rfl
      | cons rightNext rightItems =>
          intro layout stop leftRest rightRest ends nonempty apart same
          simp only [DescriptionLayout.textsOf, List.map_cons, List.map_nil,
            List.intercalate_cons_cons, List.intercalate_singleton,
            List.append_assoc] at same
          obtain ⟨-, more⟩ := first layout.inner _ _
            (endsWord_append ends nonempty _) (endsWord_between_append layout _) same
          exact absurd more.symm (apart _ _)
  | cons leftNext leftItems inductionHypothesis =>
      cases rightItems with
      | nil =>
          intro layout stop leftRest rightRest ends nonempty apart same
          simp only [DescriptionLayout.textsOf, List.map_cons, List.map_nil,
            List.intercalate_cons_cons, List.intercalate_singleton,
            List.append_assoc] at same
          obtain ⟨-, more⟩ := first layout.inner _ _
            (endsWord_between_append layout _) (endsWord_append ends nonempty _) same
          exact absurd more (apart _ _)
      | cons rightNext rightItems =>
          have others := inductionHypothesis leftNext rightNext rightItems
            (settles leftNext rightNext)
          intro layout stop leftRest rightRest ends nonempty apart same
          refine (cons first others layout stop _ _ ends nonempty apart same).imp_left ?_
          rintro ⟨rfl, sameOthers⟩
          rw [sameOthers]

end PartsSettle

/-! ## Collections -/

/-- The texts of a description do not begin with what closes a collection. -/
def Opens (description : Description) : Prop :=
  ∀ layout, ∃ first others,
    (description layout).toList = first :: others ∧ first ∉ closers

theorem opens_text (text : String) : (Description.text text).Opens :=
  fun _ => ⟨_, _, toList_shownText text, by decide⟩

/-- An entry of a map begins with the quote of its key. -/
theorem opens_entry (key : String) (value : Description) :
    (named (shownText key, value)).Opens := by
  intro layout
  simp only [named, String.toList_append, toList_shownText, List.cons_append]
  exact ⟨_, _, rfl, by decide⟩

/-- A collection begins with its opening. -/
theorem opens_collection
    {opening : String}
    {first : Char}
    {others : List Char}
    (begins : opening.toList = first :: others)
    (opens : first ∉ closers)
    (padding closing : String)
    (parts : List Description) :
    Opens (DescriptionLayout.collection opening padding closing parts) := by
  intro layout
  by_cases nonempty : parts = []
  · rw [nonempty, DescriptionLayout.toList_collection_nil, begins]
    exact ⟨_, _, rfl, opens⟩
  · rw [DescriptionLayout.toList_collection opening padding closing nonempty, begins]
    exact ⟨_, _, rfl, opens⟩

/-- What a collection has around its parts, apart from its opening. -/
structure IsFrame (padding closing : String) : Prop where
  pads : padding.toList ∈ [[], [' ']]
  closes : ∃ closer ∈ closers, closing.toList = [closer]

namespace IsFrame

theorem brace : IsFrame " " "\x7d" where
  pads := by decide
  closes := ⟨'\x7d', by decide, rfl⟩

theorem mappingBrace : IsFrame "" "\x7d" where
  pads := by decide
  closes := ⟨'\x7d', by decide, rfl⟩

theorem bracket : IsFrame "" "]" where
  pads := by decide
  closes := ⟨']', by decide, rfl⟩

theorem parenthesis : IsFrame "" ")" where
  pads := by decide
  closes := ⟨')', by decide, rfl⟩

/-- What closes a collection does not go on with a word. -/
theorem endsWord
    {padding closing : String}
    (frame : IsFrame padding closing)
    (layout : DescriptionLayout) :
    EndsWord (layout.tail padding.toList ++ closing.toList) ∧
      layout.tail padding.toList ++ closing.toList ≠ [] := by
  obtain ⟨pads, closer, isCloser, closes⟩ := frame
  have noLetter : ∀ closer ∈ closers, closer.isAlpha = false := by simp [closers]
  rw [closes]
  cases layout with
  | line =>
      simp only [List.mem_cons, List.not_mem_nil, or_false] at pads
      rcases pads with pads | pads <;> rw [pads]
      · exact ⟨fun next isNext => Option.some.inj isNext ▸ noLetter closer isCloser,
          List.cons_ne_nil _ _⟩
      · exact ⟨fun next isNext => Option.some.inj isNext ▸ (by decide),
          List.cons_ne_nil _ _⟩
  | block depth =>
      exact ⟨fun next isNext => Option.some.inj isNext ▸ (by decide),
        List.cons_ne_nil _ _⟩

end IsFrame

namespace Settles

variable
  {opening padding closing : String}

/-- Collections with parts settle what their parts settle. -/
theorem collection
    {left right : Description}
    {leftParts rightParts : List Description}
    {fact : Prop}
    (frame : IsFrame padding closing)
    (settle : PartsSettle (left :: leftParts) (right :: rightParts) fact) :
    Settles (DescriptionLayout.collection opening padding closing (left :: leftParts))
      (DescriptionLayout.collection opening padding closing (right :: rightParts))
      fact := by
  intro layout leftRest rightRest _ _ same
  rw [DescriptionLayout.toList_collection opening padding closing (List.cons_ne_nil _ _),
    DescriptionLayout.toList_collection opening padding closing
      (List.cons_ne_nil _ _)] at same
  have sameParts : layout.between.intercalate (layout.textsOf (left :: leftParts)) ++
      (layout.tail padding.toList ++ closing.toList ++ leftRest) =
        layout.between.intercalate (layout.textsOf (right :: rightParts)) ++
          (layout.tail padding.toList ++ closing.toList ++ rightRest) := by
    simpa only [List.append_assoc, List.append_cancel_left_eq] using same
  obtain ⟨ends, nonempty⟩ := frame.endsWord layout
  refine settle layout _ leftRest rightRest ends nonempty (fun rest otherRest => ?_)
    sameParts
  rw [List.append_assoc]
  exact layout.between_append_ne frame.pads frame.closes rest otherRest

/-- A collection that has parts is never the same as the empty one. -/
theorem collection_ne_nil
    {part : Description}
    (frame : IsFrame "" closing)
    (opens : part.Opens)
    (parts : List Description)
    (layout : DescriptionLayout)
    (leftRest rightRest : List Char) :
    (DescriptionLayout.collection opening "" closing (part :: parts) layout).toList ++
        leftRest ≠
      (DescriptionLayout.collection opening "" closing [] layout).toList ++ rightRest := by
  obtain ⟨-, closer, isCloser, closes⟩ := frame
  intro same
  rw [DescriptionLayout.toList_collection opening "" closing (List.cons_ne_nil _ _),
    DescriptionLayout.toList_collection_nil, closes] at same
  simp only [List.append_assoc, List.append_cancel_left_eq] at same
  cases layout with
  | line =>
      obtain ⟨first, others, begins, notCloser⟩ := opens .line
      obtain ⟨more, isFirst⟩ : ∃ more,
          DescriptionLayout.line.between.intercalate
            (DescriptionLayout.line.textsOf (part :: parts)) = first :: more := by
        rw [DescriptionLayout.textsOf, List.map_cons, DescriptionLayout.inner, begins]
        cases parts with
        | nil => exact ⟨others, List.intercalate_singleton⟩
        | cons next parts => exact ⟨_, List.intercalate_cons_cons⟩
      rw [isFirst] at same
      exact notCloser ((List.cons.inj same).1 ▸ isCloser)
  | block depth =>
      have isBreak : '\n' = closer := (List.cons.inj same).1
      exact absurd (isBreak ▸ isCloser) (by decide)

/-- Collections of parts of one kind settle which parts there are. -/
theorem items
    {describe : α → Description}
    (frame : IsFrame "" closing)
    (settles : ∀ leftItem rightItem,
      (describe leftItem).Settles (describe rightItem) (leftItem = rightItem))
    (opens : ∀ item, (describe item).Opens)
    (leftItems rightItems : List α) :
    Settles
      (DescriptionLayout.collection opening "" closing (leftItems.map describe))
      (DescriptionLayout.collection opening "" closing (rightItems.map describe))
      (leftItems = rightItems) := by
  cases leftItems with
  | nil =>
      cases rightItems with
      | nil =>
          intro layout leftRest rightRest _ _ same
          exact ⟨rfl, List.append_cancel_left same⟩
      | cons rightItem rightItems =>
          intro layout leftRest rightRest _ _ same
          exact absurd same.symm (collection_ne_nil frame (opens rightItem) _ _ _ _)
  | cons leftItem leftItems =>
      cases rightItems with
      | nil =>
          intro layout leftRest rightRest _ _ same
          exact absurd same (collection_ne_nil frame (opens leftItem) _ _ _ _)
      | cons rightItem rightItems =>
          exact collection frame
            (PartsSettle.map settles leftItem rightItem leftItems rightItems)

end Settles

end Description

end SqlDialect
