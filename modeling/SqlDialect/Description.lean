import SqlDialect.Text.Hidden

/-!
# Descriptions of values

A description shows the structure of a value for a human reader: records with
the names of their parts, sequences, mappings, and texts in quotes. It is either
on one line or in a block, where every part of a collection that is not empty
has lines of its own, four blanks deeper, with a comma at the end.

A text in quotes never breaks a line, and every hidden character in it is shown
by its code point.
-/

namespace SqlDialect

/-- How a description is laid out; a block knows its depth. -/
inductive DescriptionLayout
  | line
  | block (depth : Nat)
  deriving DecidableEq

/-- A description: its text in each layout. -/
abbrev Description := DescriptionLayout → String

/-- A character as it is shown inside quotes. -/
def shownCharacter (character : Char) : List Char :=
  if character = '"' then ['\\', '"']
  else if character = '\\' then ['\\', '\\']
  else if character = '\n' then ['\\', 'n']
  else if character = '\r' then ['\\', 'r']
  else if character = '\t' then ['\\', 't']
  else if character = '\x00' then ['\\', '0']
  else if isHidden character then
    '\\' :: 'u' :: '\x7b' :: (Nat.toDigits 16 character.toNat ++ ['\x7d'])
  else [character]

/-- A text as it is shown, with its quotes. -/
def shownText (text : String) : String :=
  String.ofList ('"' :: (text.toList.flatMap shownCharacter ++ ['"']))

namespace DescriptionLayout

/-- The blanks before a line at some depth. -/
def indentation (depth : Nat) : String :=
  String.ofList (List.replicate (4 * depth) ' ')

/-- The text of a collection from the descriptions of its parts. On one line,
some padding stands inside the brackets. -/
def collection
    (opening padding closing : String)
    (parts : List Description) : DescriptionLayout → String
  | line =>
      if parts.isEmpty then
        opening ++ closing
      else
        opening ++ padding ++ ", ".intercalate (parts.map fun part => part line) ++
          padding ++ closing
  | block depth =>
      if parts.isEmpty then
        opening ++ closing
      else
        opening ++ "\n" ++
          String.join (parts.map fun part =>
            indentation (depth + 1) ++ part (block (depth + 1)) ++ ",\n") ++
          indentation depth ++ closing

end DescriptionLayout

namespace Description

/-- A word, shown as it is. -/
def word (text : String) : Description :=
  fun _ => text

/-- A text, shown in quotes. -/
def text (text : String) : Description :=
  fun _ => shownText text

/-- A truth value. -/
def truth (value : Bool) : Description :=
  fun _ => if value then "true" else "false"

/-- A part with a name before it. -/
def named (separated : String × Description) : Description :=
  fun layout => separated.1 ++ ": " ++ separated.2 layout

/-- A record with named parts. -/
def record (name : String) (parts : List (String × Description)) : Description :=
  DescriptionLayout.collection (name ++ " \x7b") " " "\x7d" (parts.map named)

/-- A sequence of parts. -/
def sequence (parts : List Description) : Description :=
  DescriptionLayout.collection "[" "" "]" parts

/-- Parts in parentheses, possibly after a name. -/
def tuple (name : String) (parts : List Description) : Description :=
  DescriptionLayout.collection (name ++ "(") "" ")" parts

/-- A mapping from texts. -/
def mapping (entries : List (String × Description)) : Description :=
  DescriptionLayout.collection "\x7b" "" "\x7d"
    (entries.map fun entry => named (shownText entry.1, entry.2))

end Description

end SqlDialect
