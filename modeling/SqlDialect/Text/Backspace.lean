import SqlDialect.Text.Grapheme

/-!
# Taking back what was typed

A backspace in a typed text takes back the grapheme before it, as far as that has
not been taken back yet; at the start of a text it does nothing. Neither the
backspace nor what it takes back stays in the text.

What is taken back is measured in bytes, and the size of a grapheme is kept in
one byte: of a grapheme with 256 bytes or more only a part is taken back.
-/

namespace SqlDialect

/-- The character that takes back the one before it. -/
def backspace : Char := '\x08'

/-- The number of bytes of some characters. -/
def byteCount : List Char → Nat
  | [] => 0
  | character :: rest => character.utf8Size + byteCount rest

/-- Drop a number of bytes, and no character of which only a part would be
dropped. -/
def dropBytes (count : Nat) : List Char → List Char
  | [] => []
  | character :: rest =>
      if count < character.utf8Size then
        character :: rest
      else
        dropBytes (count - character.utf8Size) rest

/-- What is left of a typed text, and the sizes of the graphemes that can be taken
back, both with the last ones first. -/
structure TypedText where
  characters : List Char
  sizes : List Nat
  deriving DecidableEq

namespace TypedText

/-- A text into which nothing has been typed. -/
def empty : TypedText := ⟨[], []⟩

/-- Take back a grapheme, if there is one. -/
def takeBack (typed : TypedText) : TypedText :=
  match typed.sizes with
  | [] => typed
  | size :: sizes => ⟨dropBytes size typed.characters, sizes⟩

/-- Type a grapheme. -/
def type (typed : TypedText) (grapheme : List Char) : TypedText :=
  if grapheme = [backspace] then
    typed.takeBack
  else
    ⟨grapheme.reverse ++ typed.characters,
      byteCount grapheme % 256 :: typed.sizes⟩

end TypedText

/-- What a typed text comes to, without its backspaces and what they take back.
A text without a backspace has nothing to take back. -/
def withoutTakenBack (text : List Char) : List Char :=
  if backspace ∈ text then
    ((graphemes text).foldl TypedText.type .empty).characters.reverse
  else
    text

/-- A text without a backspace stays as it is. -/
theorem withoutTakenBack_eq_self
    {text : List Char}
    (noBackspace : backspace ∉ text) :
    withoutTakenBack text = text :=
  if_neg noBackspace

end SqlDialect
