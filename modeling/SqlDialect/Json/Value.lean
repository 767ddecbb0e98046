import SqlDialect.Json.Number
import SqlDialect.SortedMap

/-!
# JSON values

A JSON value in the sense of the data format. An object keeps its members in the
order in which they were given, and may give a key twice; looking at it by keys
is the work of `JsonValue.byKey`, where the later of two members counts.
-/

namespace SqlDialect

/-- A JSON value. -/
inductive JsonValue
  | null
  | boolean (value : Bool)
  | number (value : JsonNumber)
  | string (text : String)
  | array (items : List JsonValue)
  | object (members : List (String × JsonValue))
  deriving Inhabited

/-- The members of an object by their keys. -/
def JsonValue.byKey (members : List (String × JsonValue)) : SortedMap JsonValue :=
  .ofList members

end SqlDialect
