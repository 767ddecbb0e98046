import SqlDialect.Proofs.Json.Encodings

/-!
# What the decoders accept

Each decoder accepts the encodings of what it reads and no other JSON values. A
decoder that is made from others accepts what the encodings of its parts say, so the
statement about a whole statement is put together from the parts
(`Accepts.statement`).

An array is read place by place. What is left of it after a place is therefore what
items are related to here (`forall₂_drop_cons_iff`), and the end of the parts is the
place behind which nothing may stand.
-/

namespace SqlDialect

/-- Whether a decoder reads the encodings of every item as that item, and nothing
else. -/
def Accepts (decode : JsonDecoder α) (Encodes : α → JsonValue → Prop) : Prop :=
  ∀ value item, decode value = .ok item ↔ Encodes item value

namespace JsonDecoder

/-! ## Steps of a decoder -/

theorem bind_eq_ok_iff
    {first : Except Mismatch α}
    {second : α → Except Mismatch β}
    {result : β} :
    (first >>= second) = .ok result ↔
      ∃ between, first = .ok between ∧ second between = .ok result := by
  cases first <;> simp [bind, Except.bind]

theorem pure_eq_ok_iff {given result : α} :
    (pure given : Except Mismatch α) = .ok result ↔ result = given := by
  simp [pure, Except.pure, eq_comm]

/-- What is demanded has to be there, and is passed on as it is. -/
theorem demand_eq_ok_iff
    {key : String}
    {found : Option α}
    {item : α} :
    demand key found = .ok item ↔ found = some item := by
  cases found <;> simp [demand]

/-- An array that is read as a record has no more items than the record has parts. -/
theorem noItemAfter_eq_ok_iff
    {parts : Nat}
    {values : List JsonValue}
    {done : Unit} :
    noItemAfter parts values = .ok done ↔ values.length ≤ parts := by
  simp [noItemAfter]

/-- Items are read if the first one is and the others are. -/
theorem items_cons_eq_ok_iff
    {decode : JsonDecoder α}
    {value : JsonValue}
    {values : List JsonValue}
    {all : List α} :
    items decode (value :: values) = .ok all ↔
      ∃ item others,
        decode value = .ok item ∧ items decode values = .ok others ∧
          all = item :: others := by
  rw [items]
  cases decode value <;> cases items decode values <;> simp [eq_comm]

/-- Members are read if the value of the first one is and the others are. -/
theorem entries_cons_eq_ok_iff
    {decode : JsonDecoder α}
    {member : String × JsonValue}
    {members : List (String × JsonValue)}
    {all : List (String × α)} :
    entries decode (member :: members) = .ok all ↔
      ∃ item others,
        decode member.2 = .ok item ∧ entries decode members = .ok others ∧
          all = (member.1, item) :: others := by
  rw [entries]
  cases decode member.2 <;> cases entries decode members <;> simp [eq_comm]

/-- An object with the keys of a map is read if all its members are. -/
theorem mapping_object_eq_ok_iff
    {decode : JsonDecoder α}
    {members : List (String × JsonValue)}
    {map : SortedMap α} :
    mapping decode (.object members) = .ok map ↔
      ∃ read, entries decode (JsonValue.byKey members).entries = .ok read ∧
        map = .ofList read := by
  rw [mapping]
  cases entries decode (JsonValue.byKey members).entries <;> simp [eq_comm]

theorem wrong_ne_ok {value : JsonValue} {form : JsonForm} {item : α} :
    wrong value form ≠ .ok item := by
  simp [wrong]

end JsonDecoder

/-! ## Lists that agree item by item -/

/-- Of two lists that are related place by place each item of the first has its
counterpart. -/
theorem exists_of_mem_left
    {Related : α → β → Prop}
    {lefts : List α}
    {rights : List β}
    (each : List.Forall₂ Related lefts rights)
    {left : α}
    (member : left ∈ lefts) :
    ∃ right ∈ rights, Related left right := by
  induction each with
  | nil => cases member
  | cons related _ inductionHypothesis =>
      rcases List.mem_cons.mp member with rfl | later
      · exact ⟨_, List.mem_cons_self, related⟩
      · obtain ⟨right, isRight, relatedLater⟩ := inductionHypothesis later
        exact ⟨right, List.mem_cons_of_mem _ isRight, relatedLater⟩

theorem exists_of_mem_right
    {Related : α → β → Prop}
    {lefts : List α}
    {rights : List β}
    (each : List.Forall₂ Related lefts rights)
    {right : β}
    (member : right ∈ rights) :
    ∃ left ∈ lefts, Related left right := by
  have flipped : List.Forall₂ (flip Related) rights lefts := List.Forall₂.flip each
  exact exists_of_mem_left flipped member

theorem forall₂_iff_drop_zero
    {Related : α → β → Prop}
    {lefts : List α}
    {rights : List β} :
    List.Forall₂ Related lefts rights ↔ List.Forall₂ Related lefts (rights.drop 0) := by
  rw [List.drop_zero]

/-- From some place on, items agree if the next one does and those after it do. -/
theorem forall₂_drop_cons_iff
    {Related : α → β → Prop}
    {left : α}
    {lefts : List α}
    {rights : List β}
    {place : Nat} :
    List.Forall₂ Related (left :: lefts) (rights.drop place) ↔
      (∃ right, rights[place]? = some right ∧ Related left right) ∧
        List.Forall₂ Related lefts (rights.drop (place + 1)) := by
  rw [List.forall₂_cons_left_iff, List.drop_add_one_eq_tail_drop, ← List.head?_drop]
  cases rights.drop place <;> simp

/-- After its last part an array has nothing left. -/
theorem forall₂_drop_nil_iff
    {Related : α → β → Prop}
    {rights : List β}
    {place : Nat} :
    List.Forall₂ Related [] (rights.drop place) ↔ rights.length ≤ place := by
  rw [List.forall₂_nil_left_iff, List.drop_eq_nil_iff]

namespace Accepts

open JsonDecoder JsonEncoding

variable
  {decode : JsonDecoder α}
  {Encodes : α → JsonValue → Prop}

/-- A value encodes one item at most. -/
theorem unique
    (accepts : Accepts decode Encodes)
    {value : JsonValue}
    {left right : α}
    (leftEncoded : Encodes left value)
    (rightEncoded : Encodes right value) :
    left = right := by
  have readLeft := (accepts _ _).mpr leftEncoded
  have readRight := (accepts _ _).mpr rightEncoded
  exact Except.ok.inj (readLeft.symm.trans readRight)

/-! ## Values and collections -/

theorem string : Accepts JsonDecoder.string IsStringOf := by
  intro value text
  cases value <;> simp [JsonDecoder.string, IsStringOf, wrong_ne_ok]

theorem truth : Accepts JsonDecoder.truth IsTruthOf := by
  intro value truth
  cases value <;> simp [JsonDecoder.truth, IsTruthOf, wrong_ne_ok]

/-- Only `null` is decoded as nothing. -/
theorem nothing {value : JsonValue} {done : Unit} :
    JsonDecoder.nothing value = .ok done ↔ value = .null := by
  cases value <;> simp [JsonDecoder.nothing, wrong_ne_ok]

/-- A list of values is decoded item by item, and none is left out. -/
theorem items
    (accepts : Accepts decode Encodes)
    {values : List JsonValue}
    {all : List α} :
    JsonDecoder.items decode values = .ok all ↔ List.Forall₂ Encodes all values := by
  induction values generalizing all with
  | nil => simp [JsonDecoder.items, eq_comm]
  | cons value values inductionHypothesis =>
      rw [items_cons_eq_ok_iff, List.forall₂_cons_right_iff]
      constructor
      · rintro ⟨item, others, itemRead, othersRead, rfl⟩
        exact ⟨item, others, (accepts _ _).mp itemRead,
          inductionHypothesis.mp othersRead, rfl⟩
      · rintro ⟨item, others, encoded, othersEncoded, rfl⟩
        exact ⟨item, others, (accepts _ _).mpr encoded,
          inductionHypothesis.mpr othersEncoded, rfl⟩

/-- A sequence is decoded from an array of what its items are decoded from. -/
theorem sequence (accepts : Accepts decode Encodes) :
    Accepts (JsonDecoder.sequence decode) (IsSequenceOf Encodes) := by
  intro value all
  constructor
  · intro read
    cases value with
    | array values => exact .items (accepts.items.mp read)
    | _ => exact absurd read wrong_ne_ok
  · rintro ⟨each⟩
    exact accepts.items.mpr each

/-! ## Maps -/

/-- The entries that are read are the members with their values read. -/
theorem entries
    (accepts : Accepts decode Encodes)
    {members : List (String × JsonValue)}
    {read : List (String × α)} :
    JsonDecoder.entries decode members = .ok read ↔
      List.Forall₂ (fun entry member => entry.1 = member.1 ∧ Encodes entry.2 member.2)
        read members := by
  induction members generalizing read with
  | nil => simp [JsonDecoder.entries, eq_comm]
  | cons member members inductionHypothesis =>
      rw [entries_cons_eq_ok_iff, List.forall₂_cons_right_iff]
      constructor
      · rintro ⟨item, others, itemRead, othersRead, rfl⟩
        exact ⟨_, others, ⟨rfl, (accepts _ _).mp itemRead⟩,
          inductionHypothesis.mp othersRead, rfl⟩
      · rintro ⟨entry, others, ⟨sameKey, encoded⟩, othersEncoded, rfl⟩
        exact ⟨entry.2, others, (accepts _ _).mpr encoded,
          inductionHypothesis.mpr othersEncoded, by rw [← sameKey]⟩

/-- Members that can all be read give entries. -/
theorem exists_entries
    {members : List (String × JsonValue)}
    (encoded : ∀ member ∈ members, ∃ item, Encodes item member.2) :
    ∃ read : List (String × α), List.Forall₂
      (fun entry member => entry.1 = member.1 ∧ Encodes entry.2 member.2) read
      members := by
  induction members with
  | nil => exact ⟨[], .nil⟩
  | cons member members inductionHypothesis =>
      obtain ⟨⟨item, itemEncoded⟩, othersEncoded⟩ := List.forall_mem_cons.mp encoded
      obtain ⟨read, each⟩ := inductionHypothesis othersEncoded
      exact ⟨(member.1, item) :: read, .cons ⟨rfl, itemEncoded⟩ each⟩

/-- Entries that are read from an object make up a map that the object encodes. -/
theorem isMappingOf_ofList
    {members : List (String × JsonValue)}
    {read : List (String × α)}
    (each : List.Forall₂
      (fun entry member => entry.1 = member.1 ∧ Encodes entry.2 member.2) read
      (JsonValue.byKey members).entries) :
    IsMappingOf Encodes (SortedMap.ofList read) (.object members) := by
  have sameKeys : read.map Prod.fst =
      (JsonValue.byKey members).entries.map Prod.fst := by
    rw [← List.forall₂_eq_eq_eq, List.forall₂_map_left_iff, List.forall₂_map_right_iff]
    exact each.imp fun _ _ => And.left
  have distinct : (read.map Prod.fst).Nodup := by
    rw [sameKeys]
    exact SortedMap.nodup_keys _
  constructor
  · intro key value gives
    have isEntry := SortedMap.find?_eq_some_iff.mp (find?_byKey_eq_some_iff.mpr gives)
    obtain ⟨entry, isRead, rfl, encoded⟩ := exists_of_mem_right each isEntry
    exact ⟨entry.2, (SortedMap.find?_ofList_eq_some_iff distinct).mpr isRead, encoded⟩
  · intro key item found
    have isRead := (SortedMap.find?_ofList_eq_some_iff distinct).mp found
    obtain ⟨member, isEntry, rfl, encoded⟩ := exists_of_mem_left each isRead
    exact ⟨member.2,
      find?_byKey_eq_some_iff.mp (SortedMap.find?_eq_some_iff.mpr isEntry), encoded⟩

/-- Whatever a map holds that an object encodes, the other maps that it encodes hold
too. -/
theorem le_of_isMappingOf
    (accepts : Accepts decode Encodes)
    {members : List (String × JsonValue)}
    {left right : SortedMap α}
    (leftEncoded : IsMappingOf Encodes left (.object members))
    (rightEncoded : IsMappingOf Encodes right (.object members))
    {key : String}
    {item : α}
    (found : left.find? key = some item) :
    right.find? key = some item := by
  obtain ⟨-, held⟩ := leftEncoded
  obtain ⟨given, -⟩ := rightEncoded
  obtain ⟨value, gives, encoded⟩ := held key item found
  obtain ⟨other, foundOther, otherEncoded⟩ := given key value gives
  rw [foundOther, accepts.unique otherEncoded encoded]

/-- A mapping is decoded from an object in which the last of several members with one key
counts. -/
theorem mapping (accepts : Accepts decode Encodes) :
    Accepts (JsonDecoder.mapping decode) (IsMappingOf Encodes) := by
  intro value map
  constructor
  · intro read
    cases value with
    | object members =>
        obtain ⟨entries, entriesRead, rfl⟩ := mapping_object_eq_ok_iff.mp read
        exact isMappingOf_ofList (accepts.entries.mp entriesRead)
    | _ => exact absurd read wrong_ne_ok
  · intro encoded
    have encodedMap := encoded
    cases encoded with
    | @members members given held =>
        have encodedEach : ∀ member ∈ (JsonValue.byKey members).entries,
            ∃ item, Encodes item member.2 := by
          intro member isEntry
          have gives := find?_byKey_eq_some_iff.mp (SortedMap.find?_eq_some_iff.mpr isEntry)
          obtain ⟨item, -, itemEncoded⟩ := given member.1 member.2 gives
          exact ⟨item, itemEncoded⟩
        -- Something is read, and an object encodes no more than one map.
        obtain ⟨read, each⟩ := exists_entries encodedEach
        have readEncoded := isMappingOf_ofList each
        have same : SortedMap.ofList read = map := by
          apply SortedMap.ext_find?
          intro key
          apply Option.ext
          intro item
          exact ⟨accepts.le_of_isMappingOf readEncoded encodedMap,
            accepts.le_of_isMappingOf encodedMap readEncoded⟩
        exact mapping_object_eq_ok_iff.mpr ⟨read, accepts.entries.mpr each, same.symm⟩

/-! ## Constants -/

/-- Names that differ tell the constants that have them. -/
theorem constantNamed_eq_ok_iff
    {all : List α}
    {nameOf : α → String}
    (memAll : ∀ item, item ∈ all)
    (injective : ∀ {left right}, nameOf left = nameOf right → left = right)
    {name : String}
    {item : α} :
    constantNamed all nameOf name = .ok item ↔ name = nameOf item := by
  unfold constantNamed
  cases search : all.find? (fun constant => nameOf constant = name) with
  | none =>
      have absent : nameOf item ≠ name := by
        simpa using List.find?_eq_none.mp search item (memAll item)
      simp [Ne.symm absent]
  | some constant =>
      have isName : nameOf constant = name := by
        simpa using List.find?_some search
      rw [← isName, Except.ok.injEq]
      exact ⟨congrArg nameOf, injective⟩

/-- A constant is decoded from its name, or from an object with that name as its only key
and nothing as its value. -/
theorem constant
    {all : List α}
    {nameOf : α → String}
    (memAll : ∀ item, item ∈ all)
    (injective : ∀ {left right}, nameOf left = nameOf right → left = right) :
    Accepts (JsonDecoder.constant all nameOf)
      fun item => IsConstantOf (nameOf item) := by
  intro value item
  constructor
  · intro read
    cases value with
    | string name =>
        rw [(constantNamed_eq_ok_iff memAll injective).mp read]
        exact .string
    | object members =>
        rw [JsonDecoder.constant] at read
        split at read
        case h_1 name value single =>
          simp only [bind_eq_ok_iff, pure_eq_ok_iff] at read
          obtain ⟨found, foundNamed, done, isNull, isFound⟩ := read
          rw [isFound, ← (constantNamed_eq_ok_iff memAll injective).mp foundNamed]
          rw [nothing.mp isNull] at single
          obtain ⟨gives, noOther⟩ := entries_byKey_eq_singleton_iff.mp single
          exact .member gives noOther
        case h_2 => cases read
    | _ => exact absurd read wrong_ne_ok
  · intro encoded
    have named := (constantNamed_eq_ok_iff memAll injective).mpr (Eq.refl (nameOf item))
    cases encoded with
    | string => exact named
    | member isNull noOther =>
        have single := entries_byKey_eq_singleton_iff.mpr ⟨isNull, noOther⟩
        rw [JsonDecoder.constant, single]
        simp only [named]
        rfl

theorem comparison :
    Accepts JsonDecoder.comparison fun comparison => IsConstantOf comparison.name :=
  constant Comparison.mem_all Comparison.name_injective

theorem statementKind :
    Accepts JsonDecoder.statementKind fun kind => IsConstantOf kind.name :=
  constant StatementKind.mem_all StatementKind.name_injective

/-! ## Records -/

/-- A member is read from what an object gives to its key. -/
theorem member?_eq_some_iff
    (accepts : Accepts decode Encodes)
    {members : List (String × JsonValue)}
    {key : String}
    {item : α} :
    JsonDecoder.member? decode (JsonValue.byKey members) key = .ok (some item) ↔
      ∃ value, GivesMember members key value ∧ Encodes item value := by
  simp only [← find?_byKey_eq_some_iff, JsonDecoder.member?]
  cases (JsonValue.byKey members).find? key with
  | none => simp
  | some value =>
      simp only [Option.some.injEq, exists_eq_left']
      refine Iff.trans ?_ (accepts value item)
      cases decode value <;> simp [Except.map]

/-- A part of a record is decoded from the item at its place, which has to be there. -/
theorem item_eq_ok_iff
    (accepts : Accepts decode Encodes)
    {form : JsonForm}
    {values : List JsonValue}
    {place : Nat}
    {item : α} :
    JsonDecoder.item decode form values place = .ok item ↔
      ∃ value, values[place]? = some value ∧ Encodes item value := by
  rw [JsonDecoder.item]
  cases values[place]? with
  | none => simp
  | some value =>
      simp only [Option.some.injEq, exists_eq_left']
      exact accepts value item

/-- A condition is decoded from the members of an object if each of its parts is given by
one, whatever other members there are. -/
theorem conditionOfMembers
    {members : List (String × JsonValue)}
    {condition : Condition} :
    JsonDecoder.conditionOfMembers (JsonValue.byKey members) = .ok condition ↔
      ∀ part ∈ conditionParts condition, ∃ value,
        GivesMember members part.key value ∧ part.Encoded value := by
  simp only [JsonDecoder.conditionOfMembers, bind_eq_ok_iff, pure_eq_ok_iff,
    demand_eq_ok_iff, conditionParts, List.forall_mem_cons]
  constructor
  · rintro ⟨_, leftRead, _, leftIsFieldRead, _, rightRead, _, rightIsFieldRead,
      _, comparisonRead, left, rfl, leftIsField, rfl, read, rfl, right, rfl,
      rightIsField, rfl, rfl⟩
    simp only [Operand.content_ofContent, Operand.isField_ofContent]
    exact ⟨string.member?_eq_some_iff.mp leftRead,
      truth.member?_eq_some_iff.mp leftIsFieldRead,
      comparison.member?_eq_some_iff.mp comparisonRead,
      string.member?_eq_some_iff.mp rightRead,
      truth.member?_eq_some_iff.mp rightIsFieldRead, List.forall_mem_nil _⟩
  · rintro ⟨left, leftIsField, operator, right, rightIsField, -⟩
    refine ⟨_, string.member?_eq_some_iff.mpr left,
      _, truth.member?_eq_some_iff.mpr leftIsField,
      _, string.member?_eq_some_iff.mpr right,
      _, truth.member?_eq_some_iff.mpr rightIsField,
      _, comparison.member?_eq_some_iff.mpr operator,
      _, rfl, _, rfl, _, rfl, _, rfl, _, rfl, ?_⟩
    rw [Operand.ofContent_content_isField, Operand.ofContent_content_isField]

theorem conditionOfItems
    {values : List JsonValue}
    {condition : Condition} :
    JsonDecoder.conditionOfItems values = .ok condition ↔
      List.Forall₂ RecordPart.Encoded (conditionParts condition) values := by
  rw [forall₂_iff_drop_zero, conditionParts]
  simp only [JsonDecoder.conditionOfItems, bind_eq_ok_iff, pure_eq_ok_iff,
    noItemAfter_eq_ok_iff, forall₂_drop_cons_iff, forall₂_drop_nil_iff]
  constructor
  · rintro ⟨left, leftRead, leftIsField, leftIsFieldRead, read, comparisonRead,
      right, rightRead, rightIsField, rightIsFieldRead, _, notLonger, rfl⟩
    simp only [Operand.content_ofContent, Operand.isField_ofContent]
    exact ⟨string.item_eq_ok_iff.mp leftRead,
      truth.item_eq_ok_iff.mp leftIsFieldRead,
      comparison.item_eq_ok_iff.mp comparisonRead,
      string.item_eq_ok_iff.mp rightRead,
      truth.item_eq_ok_iff.mp rightIsFieldRead, notLonger⟩
  · rintro ⟨left, leftIsField, operator, right, rightIsField, notLonger⟩
    refine ⟨_, string.item_eq_ok_iff.mpr left,
      _, truth.item_eq_ok_iff.mpr leftIsField,
      _, comparison.item_eq_ok_iff.mpr operator,
      _, string.item_eq_ok_iff.mpr right,
      _, truth.item_eq_ok_iff.mpr rightIsField, (), notLonger, ?_⟩
    rw [Operand.ofContent_content_isField, Operand.ofContent_content_isField]

/-- A condition is decoded from an object or from an array, and from nothing else. -/
theorem condition : Accepts JsonDecoder.condition IsConditionOf := by
  intro value condition
  constructor
  · intro read
    cases value with
    | object members => exact .members (conditionOfMembers.mp read)
    | array values => exact .items (conditionOfItems.mp read)
    | _ => exact absurd read wrong_ne_ok
  · rintro (each | each)
    · exact conditionOfMembers.mpr each
    · exact conditionOfItems.mpr each

/-- An assignment is decoded from an array of two strings. -/
theorem assignment : Accepts JsonDecoder.assignment IsAssignmentOf := by
  intro value assignment
  constructor
  · intro read
    cases value with
    | array values =>
        simp only [JsonDecoder.assignment, JsonDecoder.assignmentOfItems, bind_eq_ok_iff,
          pure_eq_ok_iff, noItemAfter_eq_ok_iff] at read
        obtain ⟨field, fieldRead, text, textRead, _, notLonger, rfl⟩ := read
        constructor
        rw [forall₂_iff_drop_zero]
        simp only [forall₂_drop_cons_iff, forall₂_drop_nil_iff]
        exact ⟨string.item_eq_ok_iff.mp fieldRead, string.item_eq_ok_iff.mp textRead,
          notLonger⟩
    | _ => exact absurd read wrong_ne_ok
  · rintro ⟨each⟩
    simp only [List.forall₂_cons_left_iff, List.forall₂_nil_left_iff] at each
    obtain ⟨_, _, rfl, ⟨_, _, rfl, rfl, rfl⟩, rfl⟩ := each
    rfl

/-- A statement is decoded from the members of an object if each of its parts is given by
one, whatever other members there are. -/
theorem statementOfMembers
    {members : List (String × JsonValue)}
    {statement : Statement} :
    JsonDecoder.statementOfMembers (JsonValue.byKey members) = .ok statement ↔
      ∀ part ∈ statementParts statement, ∃ value,
        GivesMember members part.key value ∧ part.Encoded value := by
  simp only [JsonDecoder.statementOfMembers, bind_eq_ok_iff, pure_eq_ok_iff,
    demand_eq_ok_iff, statementParts, List.forall_mem_cons]
  constructor
  · rintro ⟨_, labelsRead, _, conditionsRead, _, fieldsRead, _, rowsRead, _, kindRead,
      _, tableRead, _, assignmentsRead, kind, rfl, table, rfl, fields, rfl, labels, rfl,
      conditions, rfl, assignments, rfl, rows, rfl, rfl⟩
    exact ⟨statementKind.member?_eq_some_iff.mp kindRead,
      string.member?_eq_some_iff.mp tableRead,
      string.sequence.member?_eq_some_iff.mp fieldsRead,
      string.mapping.member?_eq_some_iff.mp labelsRead,
      condition.sequence.member?_eq_some_iff.mp conditionsRead,
      assignment.sequence.member?_eq_some_iff.mp assignmentsRead,
      string.sequence.sequence.member?_eq_some_iff.mp rowsRead, List.forall_mem_nil _⟩
  · rintro ⟨kind, table, fields, labels, conditions, assignments, rows, -⟩
    exact ⟨_, string.mapping.member?_eq_some_iff.mpr labels,
      _, condition.sequence.member?_eq_some_iff.mpr conditions,
      _, string.sequence.member?_eq_some_iff.mpr fields,
      _, string.sequence.sequence.member?_eq_some_iff.mpr rows,
      _, statementKind.member?_eq_some_iff.mpr kind,
      _, string.member?_eq_some_iff.mpr table,
      _, assignment.sequence.member?_eq_some_iff.mpr assignments,
      _, rfl, _, rfl, _, rfl, _, rfl, _, rfl, _, rfl, _, rfl, rfl⟩

theorem statementOfItems
    {values : List JsonValue}
    {statement : Statement} :
    JsonDecoder.statementOfItems values = .ok statement ↔
      List.Forall₂ RecordPart.Encoded (statementParts statement) values := by
  rw [forall₂_iff_drop_zero, statementParts]
  simp only [JsonDecoder.statementOfItems, bind_eq_ok_iff, pure_eq_ok_iff,
    noItemAfter_eq_ok_iff, forall₂_drop_cons_iff, forall₂_drop_nil_iff]
  constructor
  · rintro ⟨kind, kindRead, table, tableRead, fields, fieldsRead, labels, labelsRead,
      conditions, conditionsRead, assignments, assignmentsRead, rows, rowsRead,
      _, notLonger, rfl⟩
    exact ⟨statementKind.item_eq_ok_iff.mp kindRead, string.item_eq_ok_iff.mp tableRead,
      string.sequence.item_eq_ok_iff.mp fieldsRead,
      string.mapping.item_eq_ok_iff.mp labelsRead,
      condition.sequence.item_eq_ok_iff.mp conditionsRead,
      assignment.sequence.item_eq_ok_iff.mp assignmentsRead,
      string.sequence.sequence.item_eq_ok_iff.mp rowsRead, notLonger⟩
  · rintro ⟨kind, table, fields, labels, conditions, assignments, rows, notLonger⟩
    exact ⟨_, statementKind.item_eq_ok_iff.mpr kind, _, string.item_eq_ok_iff.mpr table,
      _, string.sequence.item_eq_ok_iff.mpr fields,
      _, string.mapping.item_eq_ok_iff.mpr labels,
      _, condition.sequence.item_eq_ok_iff.mpr conditions,
      _, assignment.sequence.item_eq_ok_iff.mpr assignments,
      _, string.sequence.sequence.item_eq_ok_iff.mpr rows, (), notLonger, rfl⟩

/-- A statement is decoded from an object or from an array, and from nothing else. -/
theorem statement : Accepts JsonDecoder.statement IsStatementOf := by
  intro value statement
  constructor
  · intro read
    cases value with
    | object members => exact .members (statementOfMembers.mp read)
    | array values => exact .items (statementOfItems.mp read)
    | _ => exact absurd read wrong_ne_ok
  · rintro (each | each)
    · exact statementOfMembers.mpr each
    · exact statementOfItems.mpr each

end Accepts

end SqlDialect
