import SqlDialect.Proofs.Json.Decoding

/-!
# Members that are no parts

An object that encodes a record may have members that are no parts of it. A statement
is read as if they were not there, in its own object and in those of its conditions,
whether it can be read or not (`JsonDecoder.statement_knownOfStatement`).

With that, decoding is settled for every JSON value: exactly the encodings of
statements are read, each as the one statement that it encodes
(`Statement.ofJson_accepts_encodings`).
-/

namespace SqlDialect

namespace JsonValue

/-- The keys of a condition. -/
def conditionKeys : List String :=
  ["operand1", "operand1_is_field", "operator", "operand2", "operand2_is_field"]

/-- The keys of a statement. -/
def statementKeys : List String :=
  ["statement_type", "table_name", "fields", "aliases", "conditions", "updates",
    "inserts"]

/-- A condition without the members that are no parts of it. -/
def knownOfCondition : JsonValue → JsonValue
  | object members =>
      object (members.filter fun member => member.1 ∈ conditionKeys)
  | value => value

/-- Conditions without the members that are no parts of them. -/
def knownOfConditions : JsonValue → JsonValue
  | array values => array (values.map knownOfCondition)
  | value => value

/-- A member of a statement, without the members of conditions in it that are no parts
of them. -/
def knownOfMember (key : String) (value : JsonValue) : JsonValue :=
  if key = "conditions" then value.knownOfConditions else value

/-- A statement without the members that are no parts of it or of its conditions. -/
def knownOfStatement : JsonValue → JsonValue
  | object members =>
      object ((members.filter fun member => member.1 ∈ statementKeys).map fun member =>
        (member.1, knownOfMember member.1 member.2))
  | array values => array (values.modify 4 knownOfConditions)
  | value => value

end JsonValue

namespace SortedMap

/-- A key whose pairs are kept keeps its value. -/
theorem find?_ofList_filter
    {keys : List String}
    {key : String}
    (kept : key ∈ keys)
    (pairs : List (String × α)) :
    (ofList (pairs.filter fun pair => pair.1 ∈ keys)).find? key =
      (ofList pairs).find? key := by
  induction pairs using List.reverseRecOn with
  | nil => rfl
  | append_singleton pairs pair inductionHypothesis =>
      rw [List.filter_append, ofList_concat]
      by_cases same : key = pair.1
      · subst same
        rw [List.filter_cons_of_pos (by simpa using kept), List.filter_nil,
          ofList_concat, find?_insert_self, find?_insert_self]
      · rw [find?_insert_of_ne same, ← inductionHypothesis]
        by_cases keptToo : pair.1 ∈ keys
        · rw [List.filter_cons_of_pos (by simpa using keptToo), List.filter_nil,
            ofList_concat, find?_insert_of_ne same]
        · rw [List.filter_cons_of_neg (by simpa using keptToo), List.filter_nil,
            List.append_nil]

/-- The values of a map may be converted before or after it is made. -/
theorem find?_ofList_map
    (convert : String → α → β)
    (pairs : List (String × α))
    (key : String) :
    (ofList (pairs.map fun pair => (pair.1, convert pair.1 pair.2))).find? key =
      ((ofList pairs).find? key).map (convert key) := by
  induction pairs using List.reverseRecOn with
  | nil => rfl
  | append_singleton pairs pair inductionHypothesis =>
      rw [List.map_append, List.map_singleton, ofList_concat, ofList_concat]
      by_cases same : key = pair.1
      · subst same
        rw [find?_insert_self, find?_insert_self, Option.map_some]
      · rw [find?_insert_of_ne same, find?_insert_of_ne same, inductionHypothesis]

end SortedMap

namespace JsonDecoder

open JsonValue

/-- A member is read as what it is converted to, if the decoder cannot tell the two
apart. -/
theorem member?_eq_of_find?_eq
    {decode : JsonDecoder α}
    {convert : JsonValue → JsonValue}
    (same : ∀ value, decode (convert value) = decode value)
    {left right : SortedMap JsonValue}
    {key : String}
    (found : left.find? key = (right.find? key).map convert) :
    member? decode left key = member? decode right key := by
  rw [member?, member?, found]
  cases right.find? key with
  | none => rfl
  | some value => simp only [Option.map_some, same]

theorem conditionOfMembers_eq_of_find?
    {left right : SortedMap JsonValue}
    (found : ∀ key ∈ conditionKeys, left.find? key = right.find? key) :
    conditionOfMembers left = conditionOfMembers right := by
  simp only [conditionKeys, List.forall_mem_cons] at found
  obtain ⟨operand, isField, operator, otherOperand, otherIsField, -⟩ := found
  simp only [conditionOfMembers, member?, operand, isField, operator, otherOperand,
    otherIsField]

/-- A condition is read as if it had no members but its parts. -/
theorem condition_knownOfCondition (value : JsonValue) :
    condition value.knownOfCondition = condition value := by
  cases value with
  | object members =>
      exact conditionOfMembers_eq_of_find? fun key isPart =>
        SortedMap.find?_ofList_filter isPart members
  | _ => rfl

/-- Items are read as what they are converted to, if the decoder cannot tell the two
apart. -/
theorem items_map_of_eq
    {decode : JsonDecoder α}
    {convert : JsonValue → JsonValue}
    (same : ∀ value, decode (convert value) = decode value)
    (values : List JsonValue) :
    items decode (values.map convert) = items decode values := by
  induction values with
  | nil => rfl
  | cons value values inductionHypothesis =>
      rw [List.map_cons, items, items, same, inductionHypothesis]

/-- Conditions are read as if they had no members but their parts. -/
theorem sequence_knownOfConditions (value : JsonValue) :
    sequence condition value.knownOfConditions = sequence condition value := by
  cases value with
  | array values => exact items_map_of_eq condition_knownOfCondition values
  | _ => rfl

theorem statementOfMembers_eq_of_find?
    {left right : SortedMap JsonValue}
    (found : ∀ key ∈ statementKeys,
      left.find? key = (right.find? key).map (knownOfMember key)) :
    statementOfMembers left = statementOfMembers right := by
  simp only [statementKeys, List.forall_mem_cons] at found
  obtain ⟨kind, table, fields, labels, conditions, assignments, rows, -⟩ := found
  rw [statementOfMembers, statementOfMembers,
    member?_eq_of_find?_eq (fun _ => rfl) labels,
    member?_eq_of_find?_eq sequence_knownOfConditions conditions,
    member?_eq_of_find?_eq (fun _ => rfl) fields,
    member?_eq_of_find?_eq (fun _ => rfl) rows,
    member?_eq_of_find?_eq (fun _ => rfl) kind,
    member?_eq_of_find?_eq (fun _ => rfl) table,
    member?_eq_of_find?_eq (fun _ => rfl) assignments]

/-- Changing one item of an array leaves the others and their number as they are. -/
theorem item_modify_of_ne
    {decode : JsonDecoder α}
    {form : JsonForm}
    {convert : JsonValue → JsonValue}
    {values : List JsonValue}
    {place changed : Nat}
    (other : changed ≠ place) :
    item decode form (values.modify changed convert) place =
      item decode form values place := by
  rw [item, item, List.getElem?_modify_ne _ _ other, List.length_modify]

theorem item_modify_self
    {decode : JsonDecoder α}
    {form : JsonForm}
    {convert : JsonValue → JsonValue}
    (same : ∀ value, decode (convert value) = decode value)
    {values : List JsonValue}
    {place : Nat} :
    item decode form (values.modify place convert) place =
      item decode form values place := by
  rw [item, item, List.getElem?_modify_eq, List.length_modify]
  cases values[place]? with
  | none => rfl
  | some value => exact same value

theorem statementOfItems_known (values : List JsonValue) :
    statementOfItems (values.modify 4 knownOfConditions) = statementOfItems values := by
  simp only [statementOfItems, noItemAfter, List.length_modify,
    item_modify_self sequence_knownOfConditions,
    item_modify_of_ne (show 4 ≠ 0 by decide), item_modify_of_ne (show 4 ≠ 1 by decide),
    item_modify_of_ne (show 4 ≠ 2 by decide), item_modify_of_ne (show 4 ≠ 3 by decide),
    item_modify_of_ne (show 4 ≠ 5 by decide), item_modify_of_ne (show 4 ≠ 6 by decide)]

/-- A statement is read as if there were no members but its parts and those of its
conditions. -/
theorem statement_knownOfStatement (value : JsonValue) :
    statement value.knownOfStatement = statement value := by
  cases value with
  | object members =>
      refine statementOfMembers_eq_of_find? fun key isPart => ?_
      rw [byKey, SortedMap.find?_ofList_map, SortedMap.find?_ofList_filter isPart,
        byKey]
  | array values => exact statementOfItems_known values
  | _ => rfl

end JsonDecoder

namespace Statement

open JsonEncoding

/-- A JSON value is read as a statement exactly if it encodes it, and it encodes no
other one. Members that are no parts never change what comes of a value, not even the
mismatch. -/
theorem ofJson_accepts_encodings :
    (∀ value statement,
      ofJson value = .ok statement ↔ IsStatementOf statement value) ∧
    (∀ value left right,
      IsStatementOf left value → IsStatementOf right value → left = right) ∧
    ∀ value : JsonValue, ofJson value.knownOfStatement = ofJson value :=
  ⟨Accepts.statement, fun _ _ _ => Accepts.statement.unique,
    JsonDecoder.statement_knownOfStatement⟩

/-- An array of parts, with a constant as an object, a key that is given twice, and a
condition that has a member too many. -/
theorem ofJson_accepts_encodings_mixed :
    ∃ value statement,
      value = .array
        [.object [("Select", .null)], .string "t", .array [.string "a"],
          .object [("a", .null), ("a", .string "b")],
          .array [.object
            [("operand1", .string "a"), ("operand1_is_field", .boolean true),
              ("note", .null), ("operator", .string "Eq"), ("operand2", .string "1"),
              ("operand2_is_field", .boolean false)]],
          .array [], .array []] ∧
        IsStatementOf statement value ∧
        ∀ other, IsStatementOf other value → other = statement := by
  obtain ⟨accepts, unique, -⟩ := ofJson_accepts_encodings
  have isOnly {value : JsonValue} {statement : Statement}
      (read : ofJson value = .ok statement) :
      IsStatementOf statement value ∧
        ∀ other, IsStatementOf other value → other = statement := by
    have encoded := (accepts value statement).mp read
    exact ⟨encoded, fun other isOther => unique _ _ _ isOther encoded⟩
  let statement : Statement :=
    { ofTable .select "t" with
      fields := ["a"]
      labels := .ofList [("a", "b")]
      conditions := [⟨.field "a", .equal, .value "1"⟩] }
  exact ⟨_, statement, rfl, isOnly rfl⟩

end Statement

end SqlDialect
