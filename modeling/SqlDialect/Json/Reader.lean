import SqlDialect.Json.Value

/-!
# Reading JSON texts

A text is read by the grammar of the data format, and nothing may stand after the
value but blanks. A reader takes a value off the front of the text. The readers
of values, items and members call one another, so each has a bound on the depth
of the calls. Every array and object brings two brackets, and every further item
a comma, so the length of the text is a bound that is never met.

An escape for one half of a character outside the first 65536 counts only
together with the escape for the other half. A number that is too large is
refused.
-/

namespace SqlDialect

/-- Read something off the front of a text. -/
abbrev JsonReader (α : Type) := List Char → Option (α × List Char)

namespace JsonReader

/-- Drop the blanks of the data format at the front of a text. -/
def dropJsonBlanks (text : List Char) : List Char :=
  text.dropWhile fun character =>
    character ∈ [' ', '\n', '\r', '\t']

/-! ## Strings -/

/-- The value of a hexadecimal digit. -/
def hexDigit? (character : Char) : Option Nat :=
  let code := character.toNat
  if '0'.toNat ≤ code && code ≤ '9'.toNat then some (code - '0'.toNat)
  else if 'a'.toNat ≤ code && code ≤ 'f'.toNat then some (code - 'a'.toNat + 10)
  else if 'A'.toNat ≤ code && code ≤ 'F'.toNat then some (code - 'A'.toNat + 10)
  else none

/-- The value of four hexadecimal digits. -/
def hexUnit? (first second third fourth : Char) : Option Nat := do
  let first ← hexDigit? first
  let second ← hexDigit? second
  let third ← hexDigit? third
  let fourth ← hexDigit? fourth
  return ((first * 16 + second) * 16 + third) * 16 + fourth

/-- The character that a short escape stands for. -/
def escaped? : Char → Option Char
  | '"' => some '"'
  | '\\' => some '\\'
  | '/' => some '/'
  | 'b' => some '\x08'
  | 'f' => some '\x0C'
  | 'n' => some '\n'
  | 'r' => some '\r'
  | 't' => some '\t'
  | _ => none

/-- The character that one unit stands for by itself. -/
def ofUnit? (unit : Nat) : Option Char :=
  if 0xD800 ≤ unit && unit < 0xE000 then none else some (Char.ofNat unit)

/-- The character that two units stand for together. -/
def ofUnits? (high low : Nat) : Option Char :=
  if 0xD800 ≤ high && high < 0xDC00 && 0xDC00 ≤ low && low < 0xE000 then
    some (Char.ofNat (0x10000 + (high - 0xD800) * 0x400 + (low - 0xDC00)))
  else
    none

/-- Put a character before what the rest of a string holds. -/
def prepend
    (character : Option Char)
    (rest : Option (List Char × List Char)) : Option (List Char × List Char) := do
  let character ← character
  let (characters, after) ← rest
  return (character :: characters, after)

/-- Read the rest of a string after its opening quote. -/
def stringBody : JsonReader (List Char)
  | [] => none
  | '"' :: rest => some ([], rest)
  | '\\' :: 'u' :: a :: b :: c :: d :: '\\' :: 'u' :: e :: f :: g :: h :: rest =>
      match hexUnit? a b c d, hexUnit? e f g h with
      | some high, some low =>
          match ofUnits? high low with
          | some character => prepend (some character) (stringBody rest)
          | none =>
              prepend (ofUnit? high)
                (stringBody ('\\' :: 'u' :: e :: f :: g :: h :: rest))
      | _, _ => none
  | '\\' :: 'u' :: a :: b :: c :: d :: rest =>
      prepend ((hexUnit? a b c d).bind ofUnit?) (stringBody rest)
  | '\\' :: character :: rest =>
      prepend (escaped? character) (stringBody rest)
  | character :: rest =>
      if character.toNat < 0x20 || character = '\\' then
        none
      else
        prepend (some character) (stringBody rest)

/-! ## Numbers -/

/-- Read the digits at the front of a text, as many as there are. -/
def digits (text : List Char) : List Nat × List Char :=
  let (front, rest) := text.span Char.isDigit
  (front.map fun digit => digit.toNat - '0'.toNat, rest)

/-- Read digits, of which there is at least one. -/
def someDigits : JsonReader (List Nat) := fun text =>
  match digits text with
  | ([], _) => none
  | (read, rest) => some (read, rest)

/-- Read the digits before the point, which have no zero before others. -/
def wholePart : JsonReader (List Nat) := fun text =>
  match someDigits text with
  | some (0 :: _ :: _, _) => none
  | read => read

/-- Read the digits after the point, if there is a point. -/
def fractionPart : JsonReader (Option (List Nat))
  | '.' :: rest => do
      let (read, after) ← someDigits rest
      return (some read, after)
  | text => some (none, text)

/-- Read a power of ten without its sign. -/
def exponentDigits (negative : Bool) : JsonReader (Option Int) := fun text => do
  let (read, rest) ← someDigits text
  let size : Nat := read.foldl (fun number digit => number * 10 + digit) 0
  return (some (if negative then -(size : Int) else size), rest)

/-- Read a power of ten, if there is one. -/
def exponentPart : JsonReader (Option Int)
  | mark :: rest =>
      if mark = 'e' || mark = 'E' then
        match rest with
        | '-' :: digits => exponentDigits true digits
        | '+' :: digits => exponentDigits false digits
        | digits => exponentDigits false digits
      else
        some (none, mark :: rest)
  | [] => some (none, [])

/-- Read a number after its sign. -/
def unsignedNumber (negative : Bool) : JsonReader JsonNumber := fun text => do
  let (whole, afterWhole) ← wholePart text
  let (part?, afterPart) ← fractionPart afterWhole
  let (exponent?, rest) ← exponentPart afterPart
  let read ←
    if part?.isNone && exponent?.isNone then
      JsonNumber.ofWhole? negative whole
    else
      JsonNumber.ofParts? negative whole (part?.getD []) (exponent?.getD 0)
  return (read, rest)

/-- Read a number. -/
def number : JsonReader JsonNumber
  | '-' :: rest => unsignedNumber true rest
  | text => unsignedNumber false text

/-! ## Values -/

/-- Read a string after blanks, with its opening quote. -/
def key (text : List Char) : Option (List Char × List Char) :=
  match dropJsonBlanks text with
  | '"' :: rest => stringBody rest
  | _ => none

mutual

/-- Read a value after blanks. -/
def value : Nat → JsonReader JsonValue
  | 0, _ => none
  | bound + 1, text =>
      match dropJsonBlanks text with
      | 'n' :: 'u' :: 'l' :: 'l' :: rest => some (.null, rest)
      | 't' :: 'r' :: 'u' :: 'e' :: rest => some (.boolean true, rest)
      | 'f' :: 'a' :: 'l' :: 's' :: 'e' :: rest => some (.boolean false, rest)
      | '"' :: rest => do
          let (characters, after) ← stringBody rest
          return (.string (String.ofList characters), after)
      | '[' :: rest =>
          match dropJsonBlanks rest with
          | ']' :: after => some (.array [], after)
          | _ => do
              let (items, after) ← items bound rest
              return (.array items, after)
      | '{' :: rest =>
          match dropJsonBlanks rest with
          | '}' :: after => some (.object [], after)
          | _ => do
              let (members, after) ← members bound rest
              return (.object members, after)
      | other => do
          let (read, after) ← number other
          return (.number read, after)

/-- Read the items of an array up to its closing bracket. -/
def items : Nat → JsonReader (List JsonValue)
  | 0, _ => none
  | bound + 1, text => do
      let (first, afterFirst) ← value bound text
      match dropJsonBlanks afterFirst with
      | ']' :: rest => return ([first], rest)
      | ',' :: rest =>
          let (others, after) ← items bound rest
          return (first :: others, after)
      | _ => none

/-- Read the members of an object up to its closing brace. -/
def members : Nat → JsonReader (List (String × JsonValue))
  | 0, _ => none
  | bound + 1, text => do
      let (name, afterName) ← key text
      match dropJsonBlanks afterName with
      | ':' :: afterColon =>
          let (first, afterFirst) ← value bound afterColon
          let member := (String.ofList name, first)
          match dropJsonBlanks afterFirst with
          | '}' :: rest => return ([member], rest)
          | ',' :: rest =>
              let (others, after) ← members bound rest
              return (member :: others, after)
          | _ => none
      | _ => none

end

end JsonReader

/-- The JSON value that a text is. -/
def JsonValue.ofText? (text : String) : Option JsonValue :=
  match JsonReader.value (text.length + 1) text.toList with
  | some (value, rest) =>
      if (JsonReader.dropJsonBlanks rest).isEmpty then some value else none
  | none => none

end SqlDialect
