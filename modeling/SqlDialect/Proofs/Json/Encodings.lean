import Mathlib.Data.List.Forall2
import SqlDialect.Proofs.Json.Persistence

/-!
# JSON values that stand for statements

Which JSON values stand for a statement, stated apart from the decoders, and for each
part of it in the same way:

* a record, which is a statement or a condition, is an object with a member for each
  of its parts, whatever other members that has, or an array of just the parts in
  their order;
* a constant is a string with its name, or an object with its name as the only key
  and null as the value;
* a list is an array, a map is an object, and an assignment is an array of two
  strings.

An object may give a key twice, and then the later member counts. So an object is
described by what it gives to its keys (`GivesMember`).
-/

namespace SqlDialect

/-- Whether the members of an object give a value to a key: the last member with that
key has the value. -/
def GivesMember
    (members : List (String × JsonValue))
    (key : String)
    (value : JsonValue) : Prop :=
  ∃ before after,
    members = before ++ (key, value) :: after ∧ key ∉ after.map Prod.fst

namespace JsonEncoding

/-- A text is encoded as a string. -/
def IsStringOf (text : String) (value : JsonValue) : Prop :=
  value = .string text

/-- A truth value is encoded as itself. -/
def IsTruthOf (truth : Bool) (value : JsonValue) : Prop :=
  value = .boolean truth

/-- A list is encoded as an array of its items in their order. -/
inductive IsSequenceOf (Encodes : α → JsonValue → Prop) : List α → JsonValue → Prop
  | items
      {all : List α}
      {values : List JsonValue}
      (each : List.Forall₂ Encodes all values) :
      IsSequenceOf Encodes all (.array values)

/-- A map is encoded as an object that gives its keys their items and has no other
keys. -/
inductive IsMappingOf
    (Encodes : α → JsonValue → Prop) : SortedMap α → JsonValue → Prop
  | members
      {map : SortedMap α}
      {members : List (String × JsonValue)}
      (given : ∀ key value, GivesMember members key value →
        ∃ item, map.find? key = some item ∧ Encodes item value)
      (held : ∀ key item, map.find? key = some item →
        ∃ value, GivesMember members key value ∧ Encodes item value) :
      IsMappingOf Encodes map (.object members)

/-- A constant is encoded by its name. -/
inductive IsConstantOf (name : String) : JsonValue → Prop
  | string : IsConstantOf name (.string name)
  | member
      {members : List (String × JsonValue)}
      (isNull : GivesMember members name .null)
      (noOther : ∀ member ∈ members, member.1 = name) :
      IsConstantOf name (.object members)

/-- An assignment is encoded as an array of its field and its value. -/
def IsAssignmentOf (assignment : String × String) : JsonValue → Prop :=
  IsSequenceOf IsStringOf [assignment.1, assignment.2]

/-- A part of a record: its key, and the values that encode it. -/
structure RecordPart where
  key : String
  Encoded : JsonValue → Prop

/-- A record is encoded as an object or an array with its parts. -/
inductive IsRecordOf (parts : List RecordPart) : JsonValue → Prop
  | members
      {members : List (String × JsonValue)}
      (each : ∀ part ∈ parts, ∃ value,
        GivesMember members part.key value ∧ part.Encoded value) :
      IsRecordOf parts (.object members)
  | items
      {values : List JsonValue}
      (each : List.Forall₂ RecordPart.Encoded parts values) :
      IsRecordOf parts (.array values)

/-- The parts of a condition, in their order. -/
def conditionParts (condition : Condition) : List RecordPart :=
  [⟨"operand1", IsStringOf condition.left.content⟩,
    ⟨"operand1_is_field", IsTruthOf condition.left.isField⟩,
    ⟨"operator", IsConstantOf condition.comparison.name⟩,
    ⟨"operand2", IsStringOf condition.right.content⟩,
    ⟨"operand2_is_field", IsTruthOf condition.right.isField⟩]

/-- A condition is encoded as a record. -/
def IsConditionOf (condition : Condition) : JsonValue → Prop :=
  IsRecordOf (conditionParts condition)

/-- The parts of a statement, in their order. -/
def statementParts (statement : Statement) : List RecordPart :=
  [⟨"statement_type", IsConstantOf statement.kind.name⟩,
    ⟨"table_name", IsStringOf statement.table⟩,
    ⟨"fields", IsSequenceOf IsStringOf statement.fields⟩,
    ⟨"aliases", IsMappingOf IsStringOf statement.labels⟩,
    ⟨"conditions", IsSequenceOf IsConditionOf statement.conditions⟩,
    ⟨"updates", IsSequenceOf IsAssignmentOf statement.assignments⟩,
    ⟨"inserts", IsSequenceOf (IsSequenceOf IsStringOf) statement.rows⟩]

/-- A statement is encoded as a record. -/
def IsStatementOf (statement : Statement) : JsonValue → Prop :=
  IsRecordOf (statementParts statement)

end JsonEncoding

/-! ## Members that count -/

@[simp] theorem not_givesMember_nil (key : String) (value : JsonValue) :
    ¬GivesMember [] key value := by
  rintro ⟨before, after, whole, -⟩
  simp at whole

/-- The last member settles its key, and no other one. -/
theorem givesMember_concat_iff
    {members : List (String × JsonValue)}
    {member : String × JsonValue}
    {key : String}
    {value : JsonValue} :
    GivesMember (members ++ [member]) key value ↔
      if member.1 = key then member.2 = value else GivesMember members key value := by
  constructor
  · rintro ⟨before, after, whole, isLast⟩
    rcases List.eq_nil_or_concat after with rfl | ⟨inner, final, rfl⟩
    · obtain ⟨-, same⟩ := List.append_inj' whole rfl
      obtain rfl := List.singleton_inj.mp same
      rw [if_pos rfl]
    · rw [List.concat_eq_append, ← List.cons_append, ← List.append_assoc] at whole
      obtain ⟨rfl, same⟩ := List.append_inj' whole rfl
      obtain rfl := List.singleton_inj.mp same
      simp only [List.concat_eq_append, List.map_append, List.mem_append, not_or]
        at isLast
      rw [if_neg fun sameKey => isLast.2 (by simp [sameKey])]
      exact ⟨before, inner, rfl, isLast.1⟩
  · by_cases sameKey : member.1 = key
    · rw [if_pos sameKey]
      rintro rfl
      exact ⟨members, [], by rw [← sameKey], by simp⟩
    · rw [if_neg sameKey]
      rintro ⟨before, after, rfl, isLast⟩
      refine ⟨before, after ++ [member], by simp, ?_⟩
      simp only [List.map_append, List.mem_append, not_or]
      exact ⟨isLast, by simpa using Ne.symm sameKey⟩

/-- What an object gives to a key is found by the key. -/
theorem find?_byKey_eq_some_iff
    {members : List (String × JsonValue)}
    {key : String}
    {value : JsonValue} :
    (JsonValue.byKey members).find? key = some value ↔
      GivesMember members key value := by
  induction members using List.reverseRecOn with
  | nil => simp [JsonValue.byKey, SortedMap.ofList]
  | append_singleton members member inductionHypothesis =>
      rw [givesMember_concat_iff, ← inductionHypothesis, JsonValue.byKey,
        SortedMap.ofList_concat]
      by_cases sameKey : member.1 = key
      · rw [if_pos sameKey, ← sameKey, SortedMap.find?_insert_self, Option.some.injEq]
      · rw [if_neg sameKey, SortedMap.find?_insert_of_ne (Ne.symm sameKey)]
        rfl

/-- Every key of an object is given some value. -/
theorem exists_givesMember
    {members : List (String × JsonValue)}
    {member : String × JsonValue}
    (isMember : member ∈ members) :
    ∃ value, GivesMember members member.1 value := by
  induction members using List.reverseRecOn with
  | nil => cases isMember
  | append_singleton members last inductionHypothesis =>
      by_cases sameKey : last.1 = member.1
      · exact ⟨last.2, givesMember_concat_iff.mpr (by rw [if_pos sameKey])⟩
      · rcases List.mem_append.mp isMember with earlier | isLast
        · obtain ⟨value, gives⟩ := inductionHypothesis earlier
          exact ⟨value, givesMember_concat_iff.mpr (by rwa [if_neg sameKey])⟩
        · exact absurd (congrArg Prod.fst (List.mem_singleton.mp isLast)).symm sameKey

/-- An object has one entry by its keys if all its members have the same key. -/
theorem entries_byKey_eq_singleton_iff
    {members : List (String × JsonValue)}
    {key : String}
    {value : JsonValue} :
    (JsonValue.byKey members).entries = [(key, value)] ↔
      GivesMember members key value ∧ ∀ member ∈ members, member.1 = key := by
  constructor
  · intro single
    have only {other : String} {found : JsonValue}
        (gives : GivesMember members other found) : (other, found) = (key, value) := by
      have isEntry := SortedMap.find?_eq_some_iff.mp (find?_byKey_eq_some_iff.mpr gives)
      rw [single] at isEntry
      exact List.mem_singleton.mp isEntry
    refine ⟨find?_byKey_eq_some_iff.mp (SortedMap.find?_eq_some_iff.mpr ?_), ?_⟩
    · rw [single]
      exact List.mem_singleton_self _
    · intro member isMember
      obtain ⟨found, gives⟩ := exists_givesMember isMember
      exact congrArg Prod.fst (only gives)
  · rintro ⟨gives, noOther⟩
    have found := find?_byKey_eq_some_iff.mpr gives
    have distinct : ([(key, value)].map Prod.fst).Nodup := List.nodup_singleton key
    -- Maps are the same if the same is found in both by every key.
    have same : JsonValue.byKey members = SortedMap.ofList [(key, value)] := by
      apply SortedMap.ext_find?
      intro other
      apply Option.ext
      intro given
      rw [SortedMap.find?_ofList_eq_some_iff distinct, List.mem_singleton,
        Prod.mk.injEq]
      constructor
      · intro foundOther
        obtain ⟨before, after, whole, -⟩ := find?_byKey_eq_some_iff.mp foundOther
        obtain rfl : other = key := noOther (other, given) (by simp [whole])
        exact ⟨rfl, Option.some.inj (foundOther.symm.trans found)⟩
      · rintro ⟨rfl, rfl⟩
        exact found
    rw [same]
    rfl

end SqlDialect
