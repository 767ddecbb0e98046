import SqlDialect.Json.Value

/-!
# The text of a JSON value

A value has a compact text, without any blanks, and an indented one, in which
every item and member of a collection that is not empty has a line of its own.
The two texts have the same strings and numbers in the same order.

In a string only the quote, the backslash and the control characters below the
blank are escaped, by the short escape where there is one.
-/

namespace SqlDialect

/-- A character as it is written inside a string. -/
def jsonCharacter (character : Char) : List Char :=
  if character = '"' then ['\\', '"']
  else if character = '\\' then ['\\', '\\']
  else if character = '\x08' then ['\\', 'b']
  else if character = '\x0C' then ['\\', 'f']
  else if character = '\n' then ['\\', 'n']
  else if character = '\r' then ['\\', 'r']
  else if character = '\t' then ['\\', 't']
  else if character.toNat < 0x20 then
    ['\\', 'u', '0', '0', Nat.digitChar (character.toNat / 16),
      Nat.digitChar (character.toNat % 16)]
  else [character]

/-- A text as a string, with its quotes. -/
def jsonString (text : String) : String :=
  String.ofList ('"' :: (text.toList.flatMap jsonCharacter ++ ['"']))

/-- How the text of a JSON value is laid out. -/
inductive JsonLayout
  | compact
  | indented
  deriving DecidableEq

namespace JsonLayout

/-- The blanks before a line at some depth. -/
def indentation (depth : Nat) : String :=
  String.ofList (List.replicate (2 * depth) ' ')

/-- The text of a collection at some depth, from the texts of its parts. -/
def collection
    (depth : Nat)
    (opening closing : String)
    (parts : List String) : JsonLayout → String
  | compact => opening ++ ",".intercalate parts ++ closing
  | indented =>
      if parts.isEmpty then
        opening ++ closing
      else
        opening ++ "\n" ++
          ",\n".intercalate (parts.map (indentation (depth + 1) ++ ·)) ++
          "\n" ++ indentation depth ++ closing

/-- What separates the key of a member from its value. -/
def colon : JsonLayout → String
  | compact => ":"
  | indented => ": "

end JsonLayout

namespace JsonValue

mutual

/-- The text of a value at some depth. -/
def textAt (layout : JsonLayout) (depth : Nat) : JsonValue → String
  | null => "null"
  | boolean true => "true"
  | boolean false => "false"
  | number value => value.text
  | string text => jsonString text
  | array items =>
      layout.collection depth "[" "]" (itemTexts layout (depth + 1) items)
  | object members =>
      layout.collection depth "\x7b" "\x7d"
        (memberTexts layout (depth + 1) members)

/-- The texts of the items of an array. -/
def itemTexts
    (layout : JsonLayout)
    (depth : Nat) : List JsonValue → List String
  | [] => []
  | item :: items => textAt layout depth item :: itemTexts layout depth items

/-- The texts of the members of an object. -/
def memberTexts
    (layout : JsonLayout)
    (depth : Nat) : List (String × JsonValue) → List String
  | [] => []
  | (key, value) :: members =>
      (jsonString key ++ layout.colon ++ textAt layout depth value) ::
        memberTexts layout depth members

end

/-- The compact text of a value. -/
def compactText (value : JsonValue) : String :=
  value.textAt .compact 0

/-- The indented text of a value. -/
def indentedText (value : JsonValue) : String :=
  value.textAt .indented 0

end JsonValue

end SqlDialect
