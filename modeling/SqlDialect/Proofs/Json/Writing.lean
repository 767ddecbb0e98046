import SqlDialect.Proofs.Json.Reading

/-!
# Writing JSON texts

The two layouts of a value differ in blanks alone, and these stand only where the
grammar lets them. So both texts of an array or an object denote it as soon as the
texts of its parts denote these, at whatever depth (`JsonValue.IsWritten.array`,
`JsonValue.IsWritten.object`).
-/

namespace SqlDialect

/-! ## Parts of a collection -/

namespace JsonLayout

/-- The blanks before every part of a collection at some depth. -/
def lead (depth : Nat) : JsonLayout → List Char
  | compact => []
  | indented => '\n' :: (indentation (depth + 1)).toList

/-- The blanks after the last part of a collection at some depth. -/
def tail (depth : Nat) : JsonLayout → List Char
  | compact => []
  | indented => '\n' :: (indentation depth).toList

theorem isBlank_indentation (depth : Nat) :
    JsonGrammar.IsBlank (indentation depth).toList := by
  intro character member
  rw [indentation, String.toList_ofList] at member
  rw [List.eq_of_mem_replicate member]
  decide

theorem isBlank_newline_indentation (depth : Nat) :
    JsonGrammar.IsBlank ('\n' :: (indentation depth).toList) :=
  List.forall_mem_cons.mpr ⟨by decide, isBlank_indentation depth⟩

theorem isBlank_lead (layout : JsonLayout) (depth : Nat) :
    JsonGrammar.IsBlank (layout.lead depth) := by
  cases layout with
  | compact => exact List.forall_mem_nil _
  | indented => exact isBlank_newline_indentation (depth + 1)

theorem isBlank_tail (layout : JsonLayout) (depth : Nat) :
    JsonGrammar.IsBlank (layout.tail depth) := by
  cases layout with
  | compact => exact List.forall_mem_nil _
  | indented => exact isBlank_newline_indentation depth

/-- What separates a key from its value is a colon with or without a blank after it. -/
theorem exists_colon (layout : JsonLayout) :
    ∃ after, layout.colon.toList = ':' :: after ∧ JsonGrammar.IsBlank after := by
  cases layout with
  | compact => exact ⟨[], rfl, List.forall_mem_nil _⟩
  | indented => exact ⟨[' '], rfl, List.forall_mem_singleton.mpr List.mem_cons_self⟩

/-- Blanks that stand before every text may as well belong to what separates them. -/
theorem intercalate_map_append
    (separator lead : List Char)
    {texts : List (List Char)}
    (nonempty : texts ≠ []) :
    separator.intercalate (texts.map (lead ++ ·)) =
      lead ++ (separator ++ lead).intercalate texts := by
  induction texts with
  | nil => exact absurd rfl nonempty
  | cons text texts inductionHypothesis =>
      cases texts with
      | nil => simp
      | cons next texts =>
          have others := inductionHypothesis (List.cons_ne_nil next texts)
          rw [List.map_cons] at others
          rw [List.map_cons, List.map_cons, List.intercalate_cons_cons, others,
            List.intercalate_cons_cons]
          simp only [List.append_assoc]

/-- In both layouts a collection has its parts with commas between neighbours, and
with the same blanks before each of them. -/
theorem toList_collection
    (layout : JsonLayout)
    (depth : Nat)
    (opening closing : String)
    {parts : List String}
    (nonempty : parts ≠ []) :
    (layout.collection depth opening closing parts).toList =
      opening.toList ++
        (layout.lead depth ++
          ((',' :: layout.lead depth).intercalate (parts.map String.toList) ++
            (layout.tail depth ++ closing.toList))) := by
  have texts : parts.map String.toList ≠ [] := by
    rwa [Ne, List.map_eq_nil_iff]
  cases layout with
  | compact =>
      simp only [collection, lead, tail, String.toList_append, String.toList_intercalate]
      rw [List.nil_append, List.nil_append, List.append_assoc]
      rfl
  | indented =>
      have notEmpty : ¬parts.isEmpty = true := by
        rwa [List.isEmpty_iff]
      have separator : ",\n".toList = [',', '\n'] := rfl
      have parted :=
        intercalate_map_append [',', '\n'] (indentation (depth + 1)).toList texts
      rw [collection, if_neg notEmpty]
      simp only [String.toList_append, String.toList_intercalate, List.map_map,
        Function.comp_def] at parted ⊢
      rw [separator, parted]
      simp only [List.append_assoc]
      rfl

end JsonLayout

/-! ## Written values -/

open JsonGrammar

/-- Both texts of a value denote it, at whatever depth they stand. -/
def JsonValue.IsWritten (value : JsonValue) : Prop :=
  ∀ layout depth, IsValue value (value.textAt layout depth).toList

namespace JsonValue

theorem itemTexts_eq_map
    (layout : JsonLayout)
    (depth : Nat)
    (items : List JsonValue) :
    itemTexts layout depth items = items.map (textAt layout depth) := by
  induction items with
  | nil => rfl
  | cons item items inductionHypothesis =>
      rw [itemTexts, inductionHypothesis, List.map_cons]

/-- The text of a member of an object. -/
def memberText
    (layout : JsonLayout)
    (depth : Nat)
    (member : String × JsonValue) : String :=
  jsonString member.1 ++ layout.colon ++ textAt layout depth member.2

theorem memberTexts_eq_map
    (layout : JsonLayout)
    (depth : Nat)
    (members : List (String × JsonValue)) :
    memberTexts layout depth members = members.map (memberText layout depth) := by
  induction members with
  | nil => rfl
  | cons member members inductionHypothesis =>
      rw [memberTexts, inductionHypothesis, List.map_cons]
      rfl

end JsonValue

/-- Derived texts with commas between neighbours, and with the same blanks before each
of them, make up a list. -/
theorem JsonGrammar.listed_intercalate
    {Derives : α → List Char → Prop}
    {lead tail : List Char}
    {items : List α}
    {textOf : α → List Char}
    (blankLead : IsBlank lead)
    (blankTail : IsBlank tail)
    (nonempty : items ≠ [])
    (derived : ∀ item ∈ items, Derives item (textOf item)) :
    Listed Derives items
      (lead ++ ((',' :: lead).intercalate (items.map textOf) ++ tail)) := by
  induction items with
  | nil => exact absurd rfl nonempty
  | cons item items inductionHypothesis =>
      obtain ⟨itemDerived, othersDerived⟩ := List.forall_mem_cons.mp derived
      cases items with
      | nil =>
          rw [List.map_singleton, List.intercalate_singleton]
          exact .single blankLead itemDerived blankTail
      | cons next items =>
          have others := inductionHypothesis (List.cons_ne_nil next items) othersDerived
          have whole := Listed.cons blankLead itemDerived (List.forall_mem_nil _) others
          rw [List.map_cons] at whole ⊢
          rw [List.map_cons, List.intercalate_cons_cons]
          simpa only [List.append_assoc, List.nil_append, List.cons_append] using whole

/-- A collection has its brackets with nothing between them, or else with its parts
listed there. -/
theorem JsonGrammar.listed_collection
    {Derives : α → List Char → Prop}
    {items : List α}
    {textOf : α → String}
    (derived : ∀ item ∈ items, Derives item (textOf item).toList)
    (layout : JsonLayout)
    (depth : Nat)
    (opening closing : String) :
    ∃ text, (items = [] ∧ text = [] ∨ Listed Derives items text) ∧
      (layout.collection depth opening closing (items.map textOf)).toList =
        opening.toList ++ (text ++ closing.toList) := by
  by_cases nonempty : items = []
  · refine ⟨[], .inl ⟨nonempty, rfl⟩, ?_⟩
    rw [nonempty, List.map_nil]
    cases layout with
    | compact => simp [JsonLayout.collection]
    | indented => simp [JsonLayout.collection]
  · have texts : items.map textOf ≠ [] := by
      rwa [Ne, List.map_eq_nil_iff]
    have listed := listed_intercalate (layout.isBlank_lead depth)
      (layout.isBlank_tail depth) nonempty derived
    refine ⟨_, .inr listed, ?_⟩
    rw [JsonLayout.toList_collection layout depth _ _ texts, List.map_map]
    simp only [List.append_assoc]
    rfl

namespace JsonValue.IsWritten

theorem boolean (value : Bool) : IsWritten (.boolean value) := by
  intro layout depth
  cases value with
  | true =>
      rw [JsonValue.textAt]
      exact .yes
  | false =>
      rw [JsonValue.textAt]
      exact .no

theorem string (content : String) : IsWritten (.string content) := by
  intro layout depth
  rw [JsonValue.textAt]
  exact .string (isString_jsonString content)

theorem array
    {items : List JsonValue}
    (written : ∀ item ∈ items, IsWritten item) :
    IsWritten (.array items) := by
  intro layout depth
  obtain ⟨text, parts, isText⟩ := listed_collection
    (fun item member => written item member layout (depth + 1)) layout depth "[" "]"
  rw [JsonValue.textAt, JsonValue.itemTexts_eq_map, isText]
  rcases parts with ⟨rfl, rfl⟩ | listed
  · exact .emptyArray (List.forall_mem_nil _)
  · exact .array listed

/-- A member is written as its key, a colon and its value. -/
theorem isMember
    {member : String × JsonValue}
    (written : IsWritten member.2)
    (layout : JsonLayout)
    (depth : Nat) :
    IsMember IsValue member (JsonValue.memberText layout depth member).toList := by
  obtain ⟨after, isColon, blankAfter⟩ := layout.exists_colon
  have whole := IsMember.named (isString_jsonString member.1) (List.forall_mem_nil _)
    blankAfter (written layout depth)
  rw [JsonValue.memberText, String.toList_append, String.toList_append, isColon,
    List.append_assoc]
  exact whole

theorem object
    {members : List (String × JsonValue)}
    (written : ∀ member ∈ members, IsWritten member.2) :
    IsWritten (.object members) := by
  intro layout depth
  obtain ⟨text, parts, isText⟩ := listed_collection
    (fun member isMember => (written member isMember).isMember layout (depth + 1))
    layout depth "\x7b" "\x7d"
  rw [JsonValue.textAt, JsonValue.memberTexts_eq_map, isText]
  rcases parts with ⟨rfl, rfl⟩ | listed
  · exact .emptyObject (List.forall_mem_nil _)
  · exact .object listed

end JsonValue.IsWritten

/-- Both texts of a written value denote it and nothing else. -/
theorem JsonValue.IsWritten.isJsonText_iff
    {value : JsonValue}
    (written : JsonValue.IsWritten value)
    (layout : JsonLayout)
    (other : JsonValue) :
    IsJsonText other (value.textAt layout 0) ↔ other = value := by
  have denotes : IsJsonText value (value.textAt layout 0) := by
    have text := IsJsonText.text (List.forall_mem_nil _) (written layout 0)
      (List.forall_mem_nil _)
    rwa [List.append_nil, List.nil_append, String.ofList_toList] at text
  constructor
  · intro otherDenotes
    exact otherDenotes.unique denotes
  · rintro rfl
    exact denotes

end SqlDialect
