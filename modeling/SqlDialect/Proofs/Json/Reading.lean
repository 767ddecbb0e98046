import SqlDialect.Proofs.Json.Numbers
import SqlDialect.Proofs.Json.Strings

/-!
# Reading JSON texts

The reader takes every text that the grammar derives to the value that it denotes
(`JsonValue.ofText?_of_isJsonText`). So no text denotes two values
(`IsJsonText.unique`).

The proofs go along the derivations. A call more is needed for what is listed in an
array or an object than for a value, and the two brackets around it allow for that:
the length of a value is always bound enough.
-/

namespace SqlDialect

/-! ## What values begin with, and what follows them -/

namespace JsonGrammar

/-- A text that begins with neither a blank nor a closing bracket. -/
def BeginsValue (text : List Char) : Prop :=
  ∃ first rest, text = first :: rest ∧ first ∉ ']' :: '}' :: blanks

/-- A number begins with a digit or with the minus sign. -/
theorem isMinus_first
    {negative : Bool}
    {whole : List Nat}
    {minusText wholeText : List Char}
    (signed : IsMinus negative minusText)
    (wholeDerived : IsWhole whole wholeText)
    (others : List Char) :
    ∃ first rest, minusText ++ (wholeText ++ others) = first :: rest ∧
      (first.isDigit = true ∨ first = '-') := by
  cases signed with
  | absent =>
      cases wholeDerived with
      | digits derived noLeadingZero =>
          obtain ⟨first, rest, rfl, isDigit⟩ := areDigits_first derived
          exact ⟨first, rest ++ others, rfl, .inl isDigit⟩
  | present => exact ⟨'-', wholeText ++ others, rfl, .inr rfl⟩

/-- A number begins with a digit or with a minus. -/
theorem isNumber_first
    {number : JsonNumber}
    {text : List Char}
    (derived : IsNumber number text) :
    ∃ first rest, text = first :: rest ∧ (first.isDigit = true ∨ first = '-') := by
  cases derived with
  | integer signed wholeDerived denotes =>
      have first := isMinus_first signed wholeDerived []
      rwa [List.append_nil] at first
  | fraction signed wholeDerived partDerived powerDerived noInteger denotes =>
      exact isMinus_first signed wholeDerived _

theorem beginsValue_of_isString
    {content : String}
    {text : List Char}
    (derived : IsString content text) :
    BeginsValue text := by
  cases derived with
  | quoted derived => exact ⟨_, _, rfl, by decide⟩

/-- No text of a value begins with a blank or with what closes an array or an object. -/
theorem beginsValue_of_isValue
    {value : JsonValue}
    {text : List Char}
    (derived : IsValue value text) :
    BeginsValue text := by
  cases derived with
  | number derived =>
      have noDigit : ∀ character ∈ ']' :: '}' :: blanks,
          ¬(character.isDigit = true ∨ character = '-') := by
        simp [blanks]
      obtain ⟨first, rest, rfl, isFirst⟩ := isNumber_first derived
      exact ⟨first, rest, rfl, fun member => noDigit first member isFirst⟩
  | string derived => exact beginsValue_of_isString derived
  | null | yes | no => exact ⟨_, _, rfl, by decide⟩
  | emptyArray | array | emptyObject | object => exact ⟨_, _, rfl, by decide⟩

theorem beginsValue_of_isMember
    {member : String × JsonValue}
    {text : List Char}
    (derived : IsMember IsValue member text) :
    BeginsValue text := by
  cases derived with
  | named keyDerived blankBefore blankAfter derived =>
      obtain ⟨first, rest, rfl, noBlank⟩ := beginsValue_of_isString keyDerived
      exact ⟨first, _, rfl, noBlank⟩

/-- Blanks do not go on with a number. -/
theorem mayFollow_of_isBlank
    {text : List Char}
    (blank : IsBlank text) :
    MayFollow text := by
  intro character isFirst
  exact List.mem_append_right [',', ']', '}']
    (blank character (List.mem_of_mem_head? isFirst))

/-- A comma or a closing bracket ends a value, with or without blanks before it. -/
theorem mayFollow_append
    {after : List Char}
    {mark : Char}
    (blankAfter : IsBlank after)
    (ends : mark ∈ [',', ']', '}'])
    (rest : List Char) :
    MayFollow (after ++ mark :: rest) := by
  cases after with
  | nil =>
      intro character isFirst
      cases isFirst
      exact List.mem_append_left blanks ends
  | cons =>
      intro character isFirst
      exact mayFollow_of_isBlank blankAfter character isFirst

end JsonGrammar

/-! ## Reading values -/

namespace JsonReader

open JsonGrammar

/-- Blanks in front of a text make no difference to what is left without them. -/
theorem dropJsonBlanks_append
    {before : List Char}
    (blankBefore : IsBlank before)
    (text : List Char) :
    dropJsonBlanks (before ++ text) = dropJsonBlanks text :=
  List.dropWhile_append_of_pos fun character member =>
    decide_eq_true (blankBefore character member)

theorem dropJsonBlanks_cons
    {first : Char}
    (noBlank : first ∉ blanks)
    (rest : List Char) :
    dropJsonBlanks (first :: rest) = first :: rest :=
  List.dropWhile_cons_of_neg fun isBlank => noBlank (of_decide_eq_true isBlank)

theorem dropJsonBlanks_append_cons
    {before : List Char}
    {first : Char}
    (blankBefore : IsBlank before)
    (noBlank : first ∉ blanks)
    (rest : List Char) :
    dropJsonBlanks (before ++ first :: rest) = first :: rest :=
  (dropJsonBlanks_append blankBefore _).trans (dropJsonBlanks_cons noBlank rest)

/-- Blanks before a value are dropped. -/
theorem value_append
    {before : List Char}
    (blankBefore : IsBlank before)
    (bound : Nat)
    (text : List Char) :
    value bound (before ++ text) = value bound text := by
  cases bound with
  | zero => rfl
  | succ bound => rw [value, value, dropJsonBlanks_append blankBefore]

/-- Before a value blanks are dropped up to its first character, which closes neither an
array nor an object. -/
theorem dropJsonBlanks_of_beginsValue
    {before text : List Char}
    (blankBefore : IsBlank before)
    (begins : BeginsValue text)
    (rest : List Char) :
    ∃ first others, dropJsonBlanks (before ++ (text ++ rest)) = first :: others ∧
      first ∉ ']' :: '}' :: blanks := by
  obtain ⟨first, others, rfl, noClose⟩ := begins
  have noBlank : first ∉ blanks := fun isBlank =>
    noClose (List.mem_append_right [']', '}'] isBlank)
  exact ⟨first, others ++ rest, dropJsonBlanks_append_cons blankBefore noBlank _, noClose⟩

/-- What comes first in a list is no closing bracket. -/
theorem dropJsonBlanks_listed
    {Derives : α → List Char → Prop}
    (begins : ∀ {item text}, Derives item text → BeginsValue text)
    {items : List α}
    {text : List Char}
    (derived : Listed Derives items text)
    (rest : List Char) :
    ∃ first others, dropJsonBlanks (text ++ rest) = first :: others ∧
      first ∉ ']' :: '}' :: blanks := by
  cases derived with
  | single blankBefore derived blankAfter =>
      rw [List.append_assoc, List.append_assoc]
      exact dropJsonBlanks_of_beginsValue blankBefore (begins derived) _
  | cons blankBefore derived blankAfter others =>
      rw [List.append_assoc, List.append_assoc]
      exact dropJsonBlanks_of_beginsValue blankBefore (begins derived) _

/-! A quote or an opening bracket decides what is read. -/

theorem value_quote
    (bound : Nat)
    (rest : List Char) :
    value (bound + 1) ('"' :: rest) = (do
      let (characters, after) ← stringBody rest
      return (.string (String.ofList characters), after)) :=
  rfl

/-- A value that begins with a bracket is an array, and an empty one if nothing but blanks
comes before the closing bracket. -/
theorem value_bracket
    (bound : Nat)
    (rest : List Char) :
    value (bound + 1) ('[' :: rest) =
      match dropJsonBlanks rest with
      | ']' :: after => some (.array [], after)
      | _ => do
          let (items, after) ← items bound rest
          return (.array items, after) :=
  rfl

/-- A value that begins with a brace is an object, and an empty one if nothing but blanks
comes before the closing brace. -/
theorem value_brace
    (bound : Nat)
    (rest : List Char) :
    value (bound + 1) ('{' :: rest) =
      match dropJsonBlanks rest with
      | '}' :: after => some (.object [], after)
      | _ => do
          let (members, after) ← members bound rest
          return (.object members, after) :=
  rfl

/-- A number is read up to where it ends, if what follows does not go on with it. -/
theorem value_number
    {number : JsonNumber}
    {text rest : List Char}
    (derived : IsNumber number text)
    (follows : MayFollow rest)
    (bound : Nat) :
    value (bound + 1) (text ++ rest) = some (.number number, rest) := by
  have read := number_of_isNumber derived follows
  obtain ⟨first, others, rfl, isFirst⟩ := isNumber_first derived
  have noBlank : first ∉ blanks := by
    have noNumber : ∀ character ∈ blanks,
        ¬(character.isDigit = true ∨ character = '-') := by
      simp [blanks]
    exact fun isBlank => noNumber first isBlank isFirst
  rw [List.cons_append] at read ⊢
  rw [value, dropJsonBlanks_cons noBlank]
  split
  case h_7 =>
    rw [read]
    rfl
  -- The other forms of values begin with a character that no number begins with.
  case h_1 isText | h_2 isText | h_3 isText | h_4 isText | h_5 isText | h_6 isText =>
    obtain ⟨rfl, -⟩ := List.cons.inj isText
    exact absurd isFirst (by decide)

/-- A string is read up to its closing quote, whatever follows. -/
theorem value_string
    {content : String}
    {text : List Char}
    (derived : IsString content text)
    (bound : Nat)
    (rest : List Char) :
    value (bound + 1) (text ++ rest) = some (.string content, rest) := by
  cases derived with
  | quoted derived =>
      have read := stringBody_of_areCharacters derived rest
      rw [List.cons_append, List.append_assoc, List.singleton_append, value_quote]
      simp only [read, Option.bind_eq_bind, Option.bind_some, String.ofList_toList]
      rfl

/-- A key is read after any blanks, up to its closing quote. -/
theorem key_of_isString
    {name : String}
    {before text : List Char}
    (blankBefore : IsBlank before)
    (derived : IsString name text)
    (rest : List Char) :
    key (before ++ (text ++ rest)) = some (name.toList, rest) := by
  cases derived with
  | quoted derived =>
      rw [List.cons_append, List.append_assoc, List.singleton_append, key,
        dropJsonBlanks_append_cons blankBefore (by decide)]
      exact stringBody_of_areCharacters derived rest

/-- An array is read by its items. -/
theorem value_array
    {denoted : List JsonValue}
    {text rest : List Char}
    {bound : Nat}
    (derived : Listed IsValue denoted text)
    (read : items bound (text ++ ']' :: rest) = some (denoted, rest)) :
    value (bound + 1) ('[' :: (text ++ ']' :: rest)) = some (.array denoted, rest) := by
  obtain ⟨first, others, begins, noClose⟩ :=
    dropJsonBlanks_listed beginsValue_of_isValue derived (']' :: rest)
  rw [value_bracket, begins]
  split
  case h_1 isClose =>
    cases isClose
    exact absurd List.mem_cons_self noClose
  case h_2 =>
    rw [read]
    rfl

/-- An object is read by its members. -/
theorem value_object
    {denoted : List (String × JsonValue)}
    {text rest : List Char}
    {bound : Nat}
    (derived : Listed (IsMember IsValue) denoted text)
    (read : members bound (text ++ '}' :: rest) = some (denoted, rest)) :
    value (bound + 1) ('{' :: (text ++ '}' :: rest)) = some (.object denoted, rest) := by
  obtain ⟨first, others, begins, noClose⟩ :=
    dropJsonBlanks_listed beginsValue_of_isMember derived ('}' :: rest)
  rw [value_brace, begins]
  split
  case h_1 isClose =>
    cases isClose
    exact absurd (List.mem_cons_of_mem _ List.mem_cons_self) noClose
  case h_2 =>
    rw [read]
    rfl

theorem items_last
    {item : JsonValue}
    {text after rest : List Char}
    {bound : Nat}
    (read : value bound text = some (item, after ++ ']' :: rest))
    (blankAfter : IsBlank after) :
    items (bound + 1) text = some ([item], rest) := by
  simp only [items, read, Option.bind_eq_bind, Option.bind_some,
    dropJsonBlanks_append_cons blankAfter (show ']' ∉ blanks by decide)]
  rfl

/-- An item before a comma is followed by others. -/
theorem items_cons
    {item : JsonValue}
    {others : List JsonValue}
    {text after next rest : List Char}
    {bound : Nat}
    (read : value bound text = some (item, after ++ ',' :: next))
    (blankAfter : IsBlank after)
    (othersRead : items bound next = some (others, rest)) :
    items (bound + 1) text = some (item :: others, rest) := by
  simp only [items, read, Option.bind_eq_bind, Option.bind_some, othersRead,
    dropJsonBlanks_append_cons blankAfter (show ',' ∉ blanks by decide)]
  rfl

theorem members_last
    {name : String}
    {item : JsonValue}
    {text before valueText after rest : List Char}
    {bound : Nat}
    (nameRead : key text = some (name.toList, before ++ ':' :: valueText))
    (blankBefore : IsBlank before)
    (read : value bound valueText = some (item, after ++ '}' :: rest))
    (blankAfter : IsBlank after) :
    members (bound + 1) text = some ([(name, item)], rest) := by
  simp only [members, nameRead, read, Option.bind_eq_bind, Option.bind_some,
    dropJsonBlanks_append_cons blankBefore (show ':' ∉ blanks by decide),
    dropJsonBlanks_append_cons blankAfter (show '}' ∉ blanks by decide),
    String.ofList_toList]
  rfl

theorem members_cons
    {name : String}
    {item : JsonValue}
    {others : List (String × JsonValue)}
    {text before valueText after next rest : List Char}
    {bound : Nat}
    (nameRead : key text = some (name.toList, before ++ ':' :: valueText))
    (blankBefore : IsBlank before)
    (read : value bound valueText = some (item, after ++ ',' :: next))
    (blankAfter : IsBlank after)
    (othersRead : members bound next = some (others, rest)) :
    members (bound + 1) text = some ((name, item) :: others, rest) := by
  simp only [members, nameRead, read, Option.bind_eq_bind, Option.bind_some,
    dropJsonBlanks_append_cons blankBefore (show ':' ∉ blanks by decide),
    dropJsonBlanks_append_cons blankAfter (show ',' ∉ blanks by decide),
    String.ofList_toList, othersRead]
  rfl

mutual

/-- A value is read as what is denoted. -/
theorem value_of_isValue
    {denoted : JsonValue}
    {text : List Char} :
    IsValue denoted text →
      ∀ {bound rest}, text.length ≤ bound → MayFollow rest →
        value bound (text ++ rest) = some (denoted, rest)
  | .null, _ + 1, _, _, _ => rfl
  | .yes, _ + 1, _, _, _ => rfl
  | .no, _ + 1, _, _, _ => rfl
  | .number derived, 0, rest, enough, _ => by
      obtain ⟨first, others, rfl, -⟩ := isNumber_first derived
      cases enough
  | .number derived, bound + 1, rest, _, follows =>
      value_number derived follows bound
  | .string derived, 0, rest, enough, _ => by
      obtain ⟨first, others, rfl, -⟩ := beginsValue_of_isString derived
      cases enough
  | .string derived, bound + 1, rest, _, _ =>
      value_string derived bound rest
  | .emptyArray blank, bound + 1, rest, _, _ => by
      rw [List.cons_append, List.append_assoc, List.singleton_append, value_bracket,
        dropJsonBlanks_append_cons blank (by decide)]
      rfl
  | .array derived, bound + 1, rest, enough, _ => by
      rw [List.length_cons, List.length_append, List.length_singleton] at enough
      rw [List.cons_append, List.append_assoc, List.singleton_append]
      exact value_array derived (items_of_listed derived (by omega))
  | .emptyObject blank, bound + 1, rest, _, _ => by
      rw [List.cons_append, List.append_assoc, List.singleton_append, value_brace,
        dropJsonBlanks_append_cons blank (by decide)]
      rfl
  | .object derived, bound + 1, rest, enough, _ => by
      rw [List.length_cons, List.length_append, List.length_singleton] at enough
      rw [List.cons_append, List.append_assoc, List.singleton_append]
      exact value_object derived (members_of_listed derived (by omega))

/-- The items of an array are read up to its closing bracket. -/
theorem items_of_listed
    {denoted : List JsonValue}
    {text : List Char} :
    Listed IsValue denoted text →
      ∀ {bound rest}, text.length < bound →
        items bound (text ++ ']' :: rest) = some (denoted, rest)
  | .single blankBefore derived blankAfter, bound + 1, rest, enough => by
      simp only [List.length_append] at enough
      rw [List.append_assoc, List.append_assoc]
      refine items_last ?_ blankAfter
      rw [value_append blankBefore]
      exact value_of_isValue derived (by omega)
        (mayFollow_append blankAfter (by decide) _)
  | .cons blankBefore derived blankAfter others, bound + 1, rest, enough => by
      simp only [List.length_append, List.length_cons] at enough
      rw [List.append_assoc, List.append_assoc, List.append_assoc, List.cons_append]
      refine items_cons ?_ blankAfter (items_of_listed others (by omega))
      rw [value_append blankBefore]
      exact value_of_isValue derived (by omega)
        (mayFollow_append blankAfter (by decide) _)

/-- The members of an object are read up to its closing brace. -/
theorem members_of_listed
    {denoted : List (String × JsonValue)}
    {text : List Char} :
    Listed (IsMember IsValue) denoted text →
      ∀ {bound rest}, text.length < bound →
        members bound (text ++ '}' :: rest) = some (denoted, rest)
  | .single blankBefore (.named keyDerived blankColon blankValue derived) blankAfter,
      bound + 1, rest, enough => by
      simp only [List.length_append, List.length_cons] at enough
      simp only [List.append_assoc, List.cons_append]
      refine members_last (key_of_isString blankBefore keyDerived _) blankColon ?_
        blankAfter
      rw [value_append blankValue]
      exact value_of_isValue derived (by omega)
        (mayFollow_append blankAfter (by decide) _)
  | .cons blankBefore (.named keyDerived blankColon blankValue derived) blankAfter
        others,
      bound + 1, rest, enough => by
      simp only [List.length_append, List.length_cons] at enough
      simp only [List.append_assoc, List.cons_append]
      refine members_cons (key_of_isString blankBefore keyDerived _) blankColon ?_
        blankAfter (members_of_listed others (by omega))
      rw [value_append blankValue]
      exact value_of_isValue derived (by omega)
        (mayFollow_append blankAfter (by decide) _)

end

theorem dropJsonBlanks_of_isBlank
    {text : List Char}
    (blank : IsBlank text) :
    dropJsonBlanks text = [] := by
  have dropped := dropJsonBlanks_append blank []
  rwa [List.append_nil] at dropped

/-- A value is read up to the blanks at the end, with the length of the whole as a
bound. -/
theorem value_of_isValue_between
    {denoted : JsonValue}
    {before text after : List Char}
    (blankBefore : IsBlank before)
    (derived : IsValue denoted text)
    (blankAfter : IsBlank after) :
    value ((before ++ (text ++ after)).length + 1) (before ++ (text ++ after)) =
      some (denoted, after) := by
  rw [value_append blankBefore]
  refine value_of_isValue derived ?_ (mayFollow_of_isBlank blankAfter)
  simp only [List.length_append]
  omega

end JsonReader

/-- A JSON text is read as the value that it denotes. -/
theorem JsonValue.ofText?_of_isJsonText
    {value : JsonValue}
    {text : String}
    (derived : IsJsonText value text) :
    ofText? text = some value := by
  cases derived with
  | text blankBefore derived blankAfter =>
      have read := JsonReader.value_of_isValue_between blankBefore derived blankAfter
      rw [ofText?, String.toList_ofList, String.length_ofList, read]
      simp only [JsonReader.dropJsonBlanks_of_isBlank blankAfter]
      rfl

/-- No text denotes two values. -/
theorem IsJsonText.unique
    {value other : JsonValue}
    {text : String}
    (derived : IsJsonText value text)
    (otherDerived : IsJsonText other text) :
    value = other := by
  have read := JsonValue.ofText?_of_isJsonText derived
  rw [JsonValue.ofText?_of_isJsonText otherDerived] at read
  exact (Option.some.inj read).symm

end SqlDialect
