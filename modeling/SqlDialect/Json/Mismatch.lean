import SqlDialect.Description
import SqlDialect.Json.Value

/-!
# Reading JSON values of an expected form

A decoder takes a JSON value to a value of some type, or says in which way the
value has not the expected form. The decoders here are the ones for strings,
truth values, arrays, objects with string members, and named constants; a record
is read from its members by `member?` and `demand`, or from the items of an array
by `item` and `noItemAfter`.

The first mismatch is the one that counts. In an array that is the one of the
first item with a mismatch, and in an object the one of the first key in the
order of keys.
-/

namespace SqlDialect

/-- A form that a JSON value can be expected to have. -/
inductive JsonForm
  | string
  | truth
  | sequence
  | mapping
  | constant
  | nothing
  | pair
  | record (name : String) (parts : Nat)
  deriving DecidableEq

/-- The words for an expected form. -/
def JsonForm.text : JsonForm → String
  | string => "a string"
  | truth => "a boolean"
  | sequence => "a sequence"
  | mapping => "a map"
  | constant => "string or map"
  | nothing => "unit"
  | pair => "a tuple of size 2"
  | record name _ => "struct " ++ name

/-- The words for an expected form where its number of parts matters. -/
def JsonForm.sizedText : JsonForm → String
  | record name parts =>
      "struct " ++ name ++ " with " ++ toString parts ++ " elements"
  | form => form.text

/-- The words for the form that a JSON value has. -/
def JsonValue.formText : JsonValue → String
  | null => "null"
  | boolean value => "boolean `" ++ (if value then "true" else "false") ++ "`"
  | number (.integer value) => "integer `" ++ toString value ++ "`"
  | number (.fraction value) => "floating point `" ++ value.text ++ "`"
  | string text => "string " ++ shownText text
  | array _ => "sequence"
  | object _ => "map"

/-- In which way a JSON value has not the expected form. -/
inductive Mismatch
  | wrongForm (found : String) (expected : JsonForm)
  | unknownConstant (name : String) (known : List String)
  | notOneMember
  | tooFewItems (length : Nat) (expected : JsonForm)
  | tooManyItems (length : Nat)
  | missingMember (name : String)
  deriving DecidableEq

/-- A name as it stands in a message. -/
def ticked (name : String) : String :=
  "`" ++ name ++ "`"

/-- The message of a mismatch. -/
def Mismatch.message : Mismatch → String
  | wrongForm found expected =>
      "invalid type: " ++ found ++ ", expected " ++ expected.text
  | unknownConstant name known =>
      "unknown variant " ++ ticked name ++ ", expected one of " ++
        ", ".intercalate (known.map ticked)
  | notOneMember => "invalid value: map, expected map with a single key"
  | tooFewItems length expected =>
      "invalid length " ++ toString length ++ ", expected " ++ expected.sizedText
  | tooManyItems length =>
      "invalid length " ++ toString length ++
        ", expected fewer elements in array"
  | missingMember name => "missing field " ++ ticked name

/-- A reading of JSON values of some form. -/
abbrev JsonDecoder (α : Type) := JsonValue → Except Mismatch α

namespace JsonDecoder

/-- The mismatch of a value with an expected form. -/
def wrong (value : JsonValue) (expected : JsonForm) : Except Mismatch α :=
  .error (.wrongForm value.formText expected)

/-- Read a string. -/
def string : JsonDecoder String
  | .string text => .ok text
  | value => wrong value .string

/-- Read a truth value. -/
def truth : JsonDecoder Bool
  | .boolean value => .ok value
  | value => wrong value .truth

/-- Read null. -/
def nothing : JsonDecoder Unit
  | .null => .ok ()
  | value => wrong value .nothing

/-- Read all items of an array, in their order. -/
def items (decode : JsonDecoder α) : List JsonValue → Except Mismatch (List α)
  | [] => .ok []
  | value :: values =>
      match decode value with
      | .error mismatch => .error mismatch
      | .ok item =>
          match items decode values with
          | .error mismatch => .error mismatch
          | .ok rest => .ok (item :: rest)

/-- Read an array of any length. -/
def sequence (decode : JsonDecoder α) : JsonDecoder (List α)
  | .array values => items decode values
  | value => wrong value .sequence

/-- Read all members of a map, in the order of their keys. -/
def entries (decode : JsonDecoder α) :
    List (String × JsonValue) → Except Mismatch (List (String × α))
  | [] => .ok []
  | (key, value) :: members =>
      match decode value with
      | .error mismatch => .error mismatch
      | .ok item =>
          match entries decode members with
          | .error mismatch => .error mismatch
          | .ok rest => .ok ((key, item) :: rest)

/-- Read an object with members of one type. -/
def mapping (decode : JsonDecoder α) : JsonDecoder (SortedMap α)
  | .object members =>
      match entries decode (JsonValue.byKey members).entries with
      | .error mismatch => .error mismatch
      | .ok read => .ok (.ofList read)
  | value => wrong value .mapping

/-- Find the constant with a name. -/
def constantNamed
    (all : List α)
    (nameOf : α → String)
    (name : String) : Except Mismatch α :=
  match all.find? fun constant => nameOf constant = name with
  | some constant => .ok constant
  | none => .error (.unknownConstant name (all.map nameOf))

/-- Read one of some constants: a string with its name, or an object with its
name as the only key, and null as the value. -/
def constant (all : List α) (nameOf : α → String) : JsonDecoder α
  | .string name => constantNamed all nameOf name
  | .object members =>
      match (JsonValue.byKey members).entries with
      | [(name, value)] => do
          let found ← constantNamed all nameOf name
          nothing value
          return found
      | _ => .error .notOneMember
  | value => wrong value .constant

/-- Read the member with a key, if there is one. -/
def member?
    (decode : JsonDecoder α)
    (members : SortedMap JsonValue)
    (key : String) : Except Mismatch (Option α) :=
  match members.find? key with
  | none => .ok none
  | some value => (decode value).map some

/-- Fail if there was no member with a key. -/
def demand (key : String) : Option α → Except Mismatch α
  | some value => .ok value
  | none => .error (.missingMember key)

/-- Read the item at a place of an array that stands for a record. -/
def item
    (decode : JsonDecoder α)
    (form : JsonForm)
    (values : List JsonValue)
    (place : Nat) : Except Mismatch α :=
  match values[place]? with
  | some value => decode value
  | none => .error (.tooFewItems values.length form)

/-- Fail if an array has more items than a record has parts. -/
def noItemAfter (parts : Nat) (values : List JsonValue) : Except Mismatch Unit :=
  if parts < values.length then .error (.tooManyItems values.length) else .ok ()

end JsonDecoder

end SqlDialect
