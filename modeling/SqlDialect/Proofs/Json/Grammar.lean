import SqlDialect.Json.Value

/-!
# The grammar of JSON texts

Which texts are JSON texts, and which value each of them denotes, stated as
derivations on the characters alone and apart from the functions that write and read
texts. The rules are those of RFC 8259.

A string may hold any character as it is but the quote, the backslash and the control
characters below the blank. Every character below 65536 has an escape with four
hexadecimal digits too, and every other one has one for each of its two halves. An
escape for a single half denotes no text.

The digits of a number are read off by its derivation. Which number they make is what
`JsonNumber.ofWhole?` and `JsonNumber.ofParts?` say, and the text of a number that is
too large denotes nothing.
-/

namespace SqlDialect
namespace JsonGrammar

/-- The blanks that may stand between the parts of a text. -/
def blanks : List Char := [' ', '\n', '\r', '\t']

/-- A text of blanks. -/
def IsBlank (text : List Char) : Prop :=
  ∀ character ∈ text, character ∈ blanks

/-- Items with commas between neighbours, and with blanks around each of them. -/
inductive Listed (Derives : α → List Char → Prop) : List α → List Char → Prop
  | single
      {item : α}
      {before text after : List Char}
      (blankBefore : IsBlank before)
      (derived : Derives item text)
      (blankAfter : IsBlank after) :
      Listed Derives [item] (before ++ (text ++ after))
  | cons
      {item : α}
      {items : List α}
      {before text after rest : List Char}
      (blankBefore : IsBlank before)
      (derived : Derives item text)
      (blankAfter : IsBlank after)
      (others : Listed Derives items rest) :
      Listed Derives (item :: items) (before ++ (text ++ (after ++ ',' :: rest)))

/-! ## Strings -/

/-- The characters with a short escape, each with the letter or mark of that. -/
def shortEscapes : List (Char × Char) :=
  [('"', '"'), ('\\', '\\'), ('/', '/'), ('\x08', 'b'), ('\x0C', 'f'), ('\n', 'n'),
    ('\r', 'r'), ('\t', 't')]

/-- A hexadecimal digit, in either case. -/
inductive IsHexDigit : Nat → Char → Prop
  | lower
      {value : Nat}
      (small : value < 16) :
      IsHexDigit value value.digitChar
  | upper
      {value : Nat}
      (small : value < 16) :
      IsHexDigit value value.digitChar.toUpper

/-- An escape with four hexadecimal digits. -/
inductive IsUnit : Nat → List Char → Prop
  | digits
      {a b c d : Nat}
      {first second third fourth : Char}
      (isFirst : IsHexDigit a first)
      (isSecond : IsHexDigit b second)
      (isThird : IsHexDigit c third)
      (isFourth : IsHexDigit d fourth) :
      IsUnit (((a * 16 + b) * 16 + c) * 16 + d)
        ['\\', 'u', first, second, third, fourth]

/-- A character inside a string. -/
inductive IsCharacter : Char → List Char → Prop
  | plain
      {character : Char}
      (noControl : 0x20 ≤ character.toNat)
      (noQuote : character ≠ '"')
      (noBackslash : character ≠ '\\') :
      IsCharacter character [character]
  | short
      {character mark : Char}
      (member : (character, mark) ∈ shortEscapes) :
      IsCharacter character ['\\', mark]
  | unit
      {character : Char}
      {text : List Char}
      (derived : IsUnit character.toNat text) :
      IsCharacter character text
  | halves
      {character : Char}
      {high low : Nat}
      {highText lowText : List Char}
      (highSmall : high < 0x400)
      (lowSmall : low < 0x400)
      (code : character.toNat = 0x10000 + high * 0x400 + low)
      (highDerived : IsUnit (0xD800 + high) highText)
      (lowDerived : IsUnit (0xDC00 + low) lowText) :
      IsCharacter character (highText ++ lowText)

/-- The characters of a string one after another. -/
inductive AreCharacters : List Char → List Char → Prop
  | nil : AreCharacters [] []
  | cons
      {character : Char}
      {characters text rest : List Char}
      (derived : IsCharacter character text)
      (others : AreCharacters characters rest) :
      AreCharacters (character :: characters) (text ++ rest)

/-- A string with its quotes. -/
inductive IsString : String → List Char → Prop
  | quoted
      {content : String}
      {text : List Char}
      (derived : AreCharacters content.toList text) :
      IsString content ('"' :: (text ++ ['"']))

/-! ## Numbers -/

/-- One or more digits. -/
inductive AreDigits : List Nat → List Char → Prop
  | digits
      {digits : List Nat}
      (nonempty : digits ≠ [])
      (small : ∀ digit ∈ digits, digit < 10) :
      AreDigits digits (digits.map Nat.digitChar)

/-- The digits before the point, of which the first is a zero only if it is alone. -/
inductive IsWhole : List Nat → List Char → Prop
  | digits
      {first : Nat}
      {others : List Nat}
      {text : List Char}
      (derived : AreDigits (first :: others) text)
      (noLeadingZero : first = 0 → others = []) :
      IsWhole (first :: others) text

/-- The point and the digits after it, if there are any. -/
inductive IsPart : Option (List Nat) → List Char → Prop
  | absent : IsPart none []
  | present
      {digits : List Nat}
      {text : List Char}
      (derived : AreDigits digits text) :
      IsPart (some digits) ('.' :: text)

/-- The sign of a power of ten. -/
inductive IsSign : Bool → List Char → Prop
  | absent : IsSign false []
  | plus : IsSign false ['+']
  | minus : IsSign true ['-']

/-- The whole number with some digits. -/
def wholeNumber (digits : List Nat) : Nat :=
  digits.foldl (fun number digit => number * 10 + digit) 0

/-- The power of ten, if there is one. -/
inductive IsPower : Option Int → List Char → Prop
  | absent : IsPower none []
  | present
      {mark : Char}
      {negative : Bool}
      {digits : List Nat}
      {signText text : List Char}
      (marked : mark = 'e' ∨ mark = 'E')
      (signed : IsSign negative signText)
      (derived : AreDigits digits text) :
      IsPower
        (some (if negative then -(wholeNumber digits : Int) else wholeNumber digits))
        (mark :: (signText ++ text))

/-- The minus of a number, if there is one. -/
inductive IsMinus : Bool → List Char → Prop
  | absent : IsMinus false []
  | present : IsMinus true ['-']

/-- A number. -/
inductive IsNumber : JsonNumber → List Char → Prop
  | integer
      {negative : Bool}
      {whole : List Nat}
      {number : JsonNumber}
      {minusText wholeText : List Char}
      (signed : IsMinus negative minusText)
      (wholeDerived : IsWhole whole wholeText)
      (denotes : JsonNumber.ofWhole? negative whole = some number) :
      IsNumber number (minusText ++ wholeText)
  | fraction
      {negative : Bool}
      {whole : List Nat}
      {part? : Option (List Nat)}
      {power? : Option Int}
      {number : JsonNumber}
      {minusText wholeText partText powerText : List Char}
      (signed : IsMinus negative minusText)
      (wholeDerived : IsWhole whole wholeText)
      (partDerived : IsPart part? partText)
      (powerDerived : IsPower power? powerText)
      (noInteger : part?.isSome ∨ power?.isSome)
      (denotes :
        JsonNumber.ofParts? negative whole (part?.getD []) (power?.getD 0) =
          some number) :
      IsNumber number (minusText ++ (wholeText ++ (partText ++ powerText)))

/-! ## Values -/

/-- A member of an object: its key, a colon and its value. -/
inductive IsMember (Derives : JsonValue → List Char → Prop) :
    String × JsonValue → List Char → Prop
  | named
      {key : String}
      {value : JsonValue}
      {keyText before after text : List Char}
      (keyDerived : IsString key keyText)
      (blankBefore : IsBlank before)
      (blankAfter : IsBlank after)
      (derived : Derives value text) :
      IsMember Derives (key, value) (keyText ++ (before ++ ':' :: (after ++ text)))

/-- A value. -/
inductive IsValue : JsonValue → List Char → Prop
  | null : IsValue .null ['n', 'u', 'l', 'l']
  | yes : IsValue (.boolean true) ['t', 'r', 'u', 'e']
  | no : IsValue (.boolean false) ['f', 'a', 'l', 's', 'e']
  | number
      {number : JsonNumber}
      {text : List Char}
      (derived : IsNumber number text) :
      IsValue (.number number) text
  | string
      {content : String}
      {text : List Char}
      (derived : IsString content text) :
      IsValue (.string content) text
  | emptyArray
      {text : List Char}
      (blank : IsBlank text) :
      IsValue (.array []) ('[' :: (text ++ [']']))
  | array
      {items : List JsonValue}
      {text : List Char}
      (derived : Listed IsValue items text) :
      IsValue (.array items) ('[' :: (text ++ [']']))
  | emptyObject
      {text : List Char}
      (blank : IsBlank text) :
      IsValue (.object []) ('{' :: (text ++ ['}']))
  | object
      {members : List (String × JsonValue)}
      {text : List Char}
      (derived : Listed (IsMember IsValue) members text) :
      IsValue (.object members) ('{' :: (text ++ ['}']))

end JsonGrammar

/-- A text that denotes a value, with or without blanks around it. -/
inductive IsJsonText : JsonValue → String → Prop
  | text
      {value : JsonValue}
      {before core after : List Char}
      (blankBefore : JsonGrammar.IsBlank before)
      (derived : JsonGrammar.IsValue value core)
      (blankAfter : JsonGrammar.IsBlank after) :
      IsJsonText value (String.ofList (before ++ (core ++ after)))

end SqlDialect
