import SqlDialect.Proofs.Grammar.Collected
import SqlDialect.Proofs.Json.Writing
import SqlDialect.Statement.Decoded
import SqlDialect.Statement.Encoded

/-!
# Statements in JSON texts

A statement loses nothing when it is written as a JSON text: both texts of its JSON
value denote just that value, and the value is read as the same statement
(`Statement.jsonTexts_faithful`). It need not be one that can be written in the
dialect, and its names and values may be any texts.
-/

namespace SqlDialect

/-! ## Maps of distinct keys -/

namespace SortedMap

theorem ofList_concat (pairs : List (String × α)) (pair : String × α) :
    ofList (pairs ++ [pair]) = (ofList pairs).insert pair.1 pair.2 :=
  List.foldl_concat _ _ _ _

/-- A map of pairs with distinct keys holds just these pairs. -/
theorem find?_ofList_eq_some_iff
    {pairs : List (String × α)}
    {key : String}
    {value : α}
    (distinct : (pairs.map Prod.fst).Nodup) :
    (ofList pairs).find? key = some value ↔ (key, value) ∈ pairs := by
  induction pairs using List.reverseRecOn with
  | nil => simp [ofList]
  | append_singleton pairs pair inductionHypothesis =>
      rw [List.map_append, List.map_singleton] at distinct
      obtain ⟨othersDistinct, -, noOther⟩ := List.nodup_append.mp distinct
      rw [ofList_concat, List.mem_append, List.mem_singleton]
      by_cases same : key = pair.1
      · subst same
        rw [find?_insert_self]
        constructor
        · intro isValue
          cases isValue
          exact .inr rfl
        · rintro (member | isPair)
          · have isKey := List.mem_map_of_mem (f := Prod.fst) member
            exact absurd rfl (noOther _ isKey _ List.mem_cons_self)
          · rw [← isPair]
      · rw [find?_insert_of_ne same, inductionHypothesis othersDistinct]
        constructor
        · exact .inl
        · rintro (member | isPair)
          · exact member
          · exact absurd (congrArg Prod.fst isPair) same

/-- No key of a sorted map occurs twice, since the keys rise. -/
theorem nodup_keys (map : SortedMap α) : (map.entries.map Prod.fst).Nodup :=
  List.pairwise_map.mpr (map.keysIncrease.imp fun below => String.ne_of_lt below)

/-- The entries of a map make up the same map. -/
theorem ofList_entries (map : SortedMap α) : ofList map.entries = map := by
  apply ext_find?
  intro key
  apply Option.ext
  intro value
  rw [find?_ofList_eq_some_iff map.nodup_keys, find?_eq_some_iff]

/-- The map with the same keys and converted values. -/
def mapValues (convert : α → β) (map : SortedMap α) : SortedMap β :=
  ⟨map.entries.map fun entry => (entry.1, convert entry.2), by
    rw [KeysIncrease, List.pairwise_map]
    exact map.keysIncrease⟩

end SortedMap

/-! ## What decoders give back -/

/-- Whether what has been encoded is decoded to the same again. -/
def Decodes (decode : JsonDecoder α) (encode : α → JsonValue) : Prop :=
  ∀ item, decode (encode item) = .ok item

/-- The members of a value, which are none if it is no object. -/
def JsonValue.members : JsonValue → List (String × JsonValue)
  | .object members => members
  | _ => []

namespace Decodes

open JsonDecoder

variable {decode : JsonDecoder α} {encode : α → JsonValue}

theorem string : Decodes JsonDecoder.string .string := fun _ => rfl

theorem truth : Decodes JsonDecoder.truth .boolean := fun _ => rfl

/-- Items keep their order and number. -/
theorem items (decodes : Decodes decode encode) (all : List α) :
    JsonDecoder.items decode (all.map encode) = .ok all := by
  induction all with
  | nil => rfl
  | cons item others inductionHypothesis =>
      rw [List.map_cons, JsonDecoder.items, decodes item, inductionHypothesis]

theorem sequence (decodes : Decodes decode encode) :
    Decodes (JsonDecoder.sequence decode) fun all => .array (all.map encode) :=
  decodes.items

/-- Entries that are encoded one by one are decoded as they were, in order. -/
theorem entries
    (decodes : Decodes decode encode)
    (all : List (String × α)) :
    JsonDecoder.entries decode (all.map fun entry => (entry.1, encode entry.2)) =
      .ok all := by
  induction all with
  | nil => rfl
  | cons entry others inductionHypothesis =>
      rw [List.map_cons, JsonDecoder.entries, decodes entry.2, inductionHypothesis]

/-- A map is decoded as it was from the object of its entries. -/
theorem mapping (decodes : Decodes decode encode) :
    Decodes (JsonDecoder.mapping decode) fun map =>
      .object (map.mapValues encode).entries := by
  intro map
  rw [JsonDecoder.mapping, JsonValue.byKey, SortedMap.ofList_entries,
    SortedMap.mapValues, decodes.entries map.entries]
  exact congrArg Except.ok (SortedMap.ofList_entries map)

/-- A constant is found by its name, if no other one of them has that. -/
theorem constant
    {all : List α}
    {nameOf : α → String}
    (memAll : ∀ item, item ∈ all)
    (injective : ∀ {left right}, nameOf left = nameOf right → left = right) :
    Decodes (JsonDecoder.constant all nameOf) fun item => .string (nameOf item) := by
  intro item
  have found : all.find? (fun constant => nameOf constant = nameOf item) = some item := by
    cases search : all.find? (fun constant => nameOf constant = nameOf item) with
    | none => simpa using List.find?_eq_none.mp search item (memAll item)
    | some constant =>
        have sameName := List.find?_some search
        rw [injective (of_decide_eq_true sameName)]
  rw [JsonDecoder.constant, constantNamed, found]

theorem comparison :
    Decodes JsonDecoder.comparison fun comparison => .string comparison.name :=
  constant Comparison.mem_all Comparison.name_injective

theorem statementKind :
    Decodes JsonDecoder.statementKind fun kind => .string kind.name :=
  constant StatementKind.mem_all StatementKind.name_injective

/-- A member is read from an object in which no other one has the same key. -/
theorem member?
    {members : List (String × JsonValue)}
    {key : String}
    {item : α}
    (decodes : Decodes decode encode)
    (distinct : (members.map Prod.fst).Nodup)
    (place : Nat)
    (isMember : members[place]? = some (key, encode item)) :
    JsonDecoder.member? decode (JsonValue.byKey members) key = .ok (some item) := by
  have found := (SortedMap.find?_ofList_eq_some_iff distinct).mpr
    (List.mem_of_getElem? isMember)
  rw [JsonDecoder.member?, JsonValue.byKey, found]
  simp only [decodes item]
  rfl

/-- A condition is decoded as it was from the object of its parts. -/
theorem condition : Decodes JsonDecoder.condition Condition.toJson := by
  intro condition
  have operands : (⟨.ofContent condition.left.content condition.left.isField,
      condition.comparison,
      .ofContent condition.right.content condition.right.isField⟩ : Condition) =
        condition := by
    rw [Operand.ofContent_content_isField, Operand.ofContent_content_isField]
  have distinct : (condition.toJson.members.map Prod.fst).Nodup :=
    show List.Nodup ["operand1", "operand1_is_field", "operator", "operand2",
      "operand2_is_field"] by decide
  change JsonDecoder.conditionOfMembers (JsonValue.byKey condition.toJson.members) = _
  rw [JsonDecoder.conditionOfMembers, string.member? distinct 0 rfl,
    truth.member? distinct 1 rfl, string.member? distinct 3 rfl,
    truth.member? distinct 4 rfl, comparison.member? distinct 2 rfl]
  exact congrArg Except.ok operands

theorem assignment : Decodes JsonDecoder.assignment assignmentJson := fun _ => rfl

/-- A statement is decoded as it was from the object of its parts. -/
theorem statement : Decodes JsonDecoder.statement Statement.toJson := by
  intro statement
  have distinct : (statement.toJson.members.map Prod.fst).Nodup :=
    show List.Nodup ["statement_type", "table_name", "fields", "aliases", "conditions",
      "updates", "inserts"] by decide
  change JsonDecoder.statementOfMembers (JsonValue.byKey statement.toJson.members) = _
  rw [JsonDecoder.statementOfMembers, string.mapping.member? distinct 3 rfl,
    condition.sequence.member? distinct 4 rfl, string.sequence.member? distinct 2 rfl,
    string.sequence.sequence.member? distinct 6 rfl, statementKind.member? distinct 0 rfl,
    string.member? distinct 1 rfl, assignment.sequence.member? distinct 5 rfl]
  rfl

end Decodes

namespace JsonValue.IsWritten

theorem strings (texts : List String) : IsWritten (.strings texts) :=
  .array (List.forall_mem_map.mpr fun text _ => .string text)

theorem condition (condition : Condition) : IsWritten condition.toJson := by
  refine .object ?_
  simp only [List.forall_mem_cons]
  exact ⟨.string _, .boolean _, .string _, .string _, .boolean _, List.forall_mem_nil _⟩

theorem labels (labels : SortedMap String) : IsWritten (labelsJson labels) :=
  .object (List.forall_mem_map.mpr fun entry _ => .string entry.2)

theorem statement (statement : Statement) : IsWritten statement.toJson := by
  have conditions : IsWritten (.array (statement.conditions.map Condition.toJson)) :=
    .array (List.forall_mem_map.mpr fun condition _ => .condition condition)
  have assignments : IsWritten (.array (statement.assignments.map assignmentJson)) :=
    .array (List.forall_mem_map.mpr fun assignment _ => .strings _)
  have rows : IsWritten (.array (statement.rows.map .strings)) :=
    .array (List.forall_mem_map.mpr fun row _ => .strings row)
  refine .object ?_
  simp only [List.forall_mem_cons]
  exact ⟨.string _, .string _, .strings _, .labels _, conditions, assignments, rows,
    List.forall_mem_nil _⟩

end JsonValue.IsWritten

/-- Both JSON texts of a statement denote its JSON value and nothing else, they are
read as that, and the value is read as the same statement. -/
theorem Statement.jsonTexts_faithful (statement : Statement) :
    (∀ value,
      IsJsonText value statement.toJson.compactText ↔ value = statement.toJson) ∧
    (∀ value,
      IsJsonText value statement.toJson.indentedText ↔ value = statement.toJson) ∧
    JsonValue.ofText? statement.toJson.compactText = some statement.toJson ∧
    JsonValue.ofText? statement.toJson.indentedText = some statement.toJson ∧
    ofJson statement.toJson = .ok statement := by
  have compact := (JsonValue.IsWritten.statement statement).isJsonText_iff .compact
  have indented := (JsonValue.IsWritten.statement statement).isJsonText_iff .indented
  exact ⟨compact, indented,
    JsonValue.ofText?_of_isJsonText ((compact statement.toJson).mpr rfl),
    JsonValue.ofText?_of_isJsonText ((indented statement.toJson).mpr rfl),
    Decodes.statement statement⟩

end SqlDialect
