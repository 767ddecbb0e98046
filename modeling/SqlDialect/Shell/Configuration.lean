import SqlDialect.Json.Value
import SqlDialect.Text.SmallLetters

/-!
# Configurations

A configuration is a JSON object, and each of its members says something about a
setting. Its key names the setting and may go on with steps to a place inside the
value of the setting: `.` and a name lead to a member of a table, and a number in
brackets leads to an item of a sequence. A key that has not this form names a
setting as a whole. All keys are taken in small letters, and that is done before
their form is looked at.

A setting starts with a default. A member for the setting itself gives it another
value. A member for a place inside it makes it a table or a sequence, unless it is
one, and a JSON object adds its members to the table. So an object without
members changes nothing.

Of a table only the names of its members matter, and of a sequence only whether
it is there as such in the configuration.
-/

namespace SqlDialect

/-! ## Keys -/

/-- A step to a place inside a value. -/
inductive SettingStep
  | member (name : String)
  | item
  deriving DecidableEq

/-- A place that a key leads to: a setting, and steps inside its value. -/
structure SettingPlace where
  setting : String
  steps : List SettingStep
  deriving DecidableEq

namespace SettingPlace

/-- Whether a character can stand in the name of a setting or of a member of a
place. -/
def isNameCharacter (character : Char) : Bool :=
  character.isAlphanum || character ∈ ['_', '-', ' ']

/-- Split a text after the name at its front. -/
def splitName? (text : List Char) : Option (String × List Char) :=
  match text.span isNameCharacter with
  | ([], _) => none
  | (name, rest) => some (String.ofList name, rest)

/-- Drop the spaces and tabs at the front of a text. -/
def dropSpaces (text : List Char) : List Char :=
  text.dropWhile fun character => character ∈ [' ', '\t']

/-- Whether some digits are the number of an item, which fits into 64 bits with
its sign. -/
def isItemNumber (negative : Bool) (digits : List Char) : Bool :=
  match (String.ofList digits).toNat? with
  | some number => number < Nat.pow 2 63 || (negative && number = Nat.pow 2 63)
  | none => false

/-- The rest of a text after the number of an item, which may have spaces and tabs
around it, and its closing bracket. -/
def afterItemNumber? (text : List Char) : Option (List Char) :=
  let (negative, unsigned) :=
    match dropSpaces text with
    | '-' :: rest => (true, rest)
    | rest => (false, rest)
  let (digits, rest) := unsigned.span Char.isDigit
  match dropSpaces rest with
  | ']' :: after => if isItemNumber negative digits then some after else none
  | _ => none

/-- Read the step at the front of a text. -/
def step? : List Char → Option (SettingStep × List Char)
  | '.' :: text => do
      let (name, rest) ← splitName? text
      return (.member name, rest)
  | '[' :: text => do
      let rest ← afterItemNumber? text
      return (.item, rest)
  | _ => none

/-- Read all steps of a text. Each takes up a character at least, so the length
of the text is a bound for their number that is never met. -/
def steps? : Nat → List Char → Option (List SettingStep)
  | _, [] => some []
  | 0, _ => none
  | bound + 1, text => do
      let (first, rest) ← step? text
      let others ← steps? bound rest
      return first :: others

/-- The place that a key in small letters has the form of. -/
def ofForm? (key : String) : Option SettingPlace := do
  let (setting, rest) ← splitName? key.toList
  let steps ← steps? rest.length rest
  return ⟨setting, steps⟩

/-- The place that a key leads to. -/
def ofKey (key : String) : SettingPlace :=
  let name := inSmallLetters key
  (ofForm? name).getD ⟨name, []⟩

end SettingPlace

/-! ## Values -/

/-- The value of a setting. A sequence is given or else made for its items. -/
inductive SettingValue
  | text (text : String)
  | numberOrTruth
  | nothing
  | sequence (given : Bool)
  | table (names : List String)
  deriving DecidableEq

namespace SettingValue

/-- Put a member into the table that a value is, or else into a new one. -/
def withMember (value : SettingValue) (name : String) : SettingValue :=
  match value with
  | table names => table (names.insert name)
  | _ => table [name]

/-- Put an item into the sequence that a value is, or else into a new one. -/
def withItem : SettingValue → SettingValue
  | sequence given => sequence given
  | _ => sequence false

/-- What a value becomes when a JSON value is given to the setting. -/
def assign (value : SettingValue) : JsonValue → SettingValue
  | .null => nothing
  | .boolean _ => numberOrTruth
  | .number _ => numberOrTruth
  | .string content => text content
  | .array _ => sequence true
  | .object members =>
      members.foldl (fun table member =>
        table.withMember (inSmallLetters member.1)) value

/-- What the value of a setting becomes by a member of a configuration. -/
def follow
    (setting : String)
    (value : SettingValue)
    (member : String × JsonValue) : SettingValue :=
  let place := SettingPlace.ofKey member.1
  if place.setting = setting then
    match place.steps with
    | [] => value.assign member.2
    | .member name :: _ => value.withMember name
    | .item :: _ => value.withItem
  else
    value

/-- The value of a setting with a default, given the members of a configuration.
They are gone through in the order of their keys. -/
def configured
    (setting default : String)
    (members : List (String × JsonValue)) : SettingValue :=
  (JsonValue.byKey members).entries.foldl (follow setting) (text default)

end SettingValue

end SqlDialect
