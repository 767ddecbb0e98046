import Mathlib.Tactic.SplitIfs
import SqlDialect.Json.Reader
import SqlDialect.Json.Text
import SqlDialect.Proofs.Json.Grammar

/-!
# Strings in JSON texts

Every string that the grammar derives is read as what it denotes
(`JsonReader.stringBody_of_areCharacters`), and every string that is written is
derived by the grammar (`JsonGrammar.isString_jsonString`).
-/

namespace SqlDialect

/-! ## Reading strings -/

namespace JsonReader

open JsonGrammar

theorem hexDigit?_of_isHexDigit
    {value : Nat}
    {digit : Char}
    (derived : IsHexDigit value digit) :
    hexDigit? digit = some value := by
  have all : ∀ value < 16,
      hexDigit? value.digitChar = some value ∧
        hexDigit? value.digitChar.toUpper = some value := by
    decide
  cases derived with
  | lower small => exact (all value small).1
  | upper small => exact (all value small).2

/-- An escape with four digits is read as the number that they make. -/
theorem hexUnit?_of_isUnit
    {unit : Nat}
    {text : List Char}
    (derived : IsUnit unit text) :
    ∃ a b c d, text = ['\\', 'u', a, b, c, d] ∧ hexUnit? a b c d = some unit := by
  cases derived with
  | digits isFirst isSecond isThird isFourth =>
      refine ⟨_, _, _, _, rfl, ?_⟩
      rw [hexUnit?, hexDigit?_of_isHexDigit isFirst, hexDigit?_of_isHexDigit isSecond,
        hexDigit?_of_isHexDigit isThird, hexDigit?_of_isHexDigit isFourth]
      rfl

/-- Whether a text begins like an escape with four digits decides how an escape before
it is read. -/
theorem beginsLikeUnit_or_not (text : List Char) :
    (∃ a b c d rest, text = '\\' :: 'u' :: a :: b :: c :: d :: rest) ∨
      ∀ a b c d rest, text = '\\' :: 'u' :: a :: b :: c :: d :: rest → False := by
  by_cases begins : ∃ a b c d rest, text = '\\' :: 'u' :: a :: b :: c :: d :: rest
  · exact .inl begins
  · exact .inr fun a b c d rest isText => begins ⟨a, b, c, d, rest, isText⟩

/-- No string goes on with an escape that has no four digits. -/
theorem stringBody_of_noUnit
    {a b c d : Char}
    (noUnit : hexUnit? a b c d = none)
    (rest : List Char) :
    stringBody ('\\' :: 'u' :: a :: b :: c :: d :: rest) = none := by
  rcases beginsLikeUnit_or_not rest with ⟨e, f, g, h, after, rfl⟩ | otherwise
  · rw [stringBody, noUnit]
  · rw [stringBody, noUnit]
    · rfl
    · exact otherwise

/-- The number of a character is no half of one. -/
theorem no_half_toNat (character : Char) :
    character.toNat < 0xD800 ∨ 0xE000 ≤ character.toNat := by
  rcases character.valid with low | high
  · exact .inl low
  · exact .inr high.1

theorem ofUnit?_toNat (character : Char) :
    ofUnit? character.toNat = some character := by
  have noHalf := no_half_toNat character
  rw [ofUnit?, if_neg, Char.ofNat_toNat]
  simp only [Bool.and_eq_true, decide_eq_true_eq]
  omega

theorem ofUnits?_toNat (character : Char) (low : Nat) :
    ofUnits? character.toNat low = none := by
  have noHalf := no_half_toNat character
  rw [ofUnits?, if_neg]
  simp only [Bool.and_eq_true, decide_eq_true_eq]
  omega

/-- A unit that is no half of a character is read as a character by itself. -/
theorem stringBody_unit
    {a b c d character : Char}
    (isUnit : hexUnit? a b c d = some character.toNat)
    (rest : List Char) :
    stringBody ('\\' :: 'u' :: a :: b :: c :: d :: rest) =
      prepend (some character) (stringBody rest) := by
  rcases beginsLikeUnit_or_not rest with ⟨e, f, g, h, after, rfl⟩ | otherwise
  · rw [stringBody, isUnit]
    cases next : hexUnit? e f g h with
    | none =>
        rw [stringBody_of_noUnit next]
        rfl
    | some low =>
        simp only [ofUnits?_toNat, ofUnit?_toNat]
  · rw [stringBody, isUnit]
    · rw [Option.bind_some, ofUnit?_toNat]
    · exact otherwise

/-- The escapes for the two halves of a character are read as that. -/
theorem stringBody_halves
    {a b c d e f g h character : Char}
    {high low : Nat}
    (highSmall : high < 0x400)
    (lowSmall : low < 0x400)
    (code : character.toNat = 0x10000 + high * 0x400 + low)
    (isHigh : hexUnit? a b c d = some (0xD800 + high))
    (isLow : hexUnit? e f g h = some (0xDC00 + low))
    (rest : List Char) :
    stringBody
        ('\\' :: 'u' :: a :: b :: c :: d :: '\\' :: 'u' :: e :: f :: g :: h :: rest) =
      prepend (some character) (stringBody rest) := by
  have together : ofUnits? (0xD800 + high) (0xDC00 + low) = some character := by
    rw [ofUnits?, if_pos, Nat.add_sub_cancel_left, Nat.add_sub_cancel_left, ← code,
      Char.ofNat_toNat]
    simp only [Bool.and_eq_true, decide_eq_true_eq]
    omega
  rw [stringBody, isHigh, isLow]
  simp only [together]

/-- A character inside a string is read before the rest of that. -/
theorem stringBody_of_isCharacter
    {character : Char}
    {text : List Char}
    (derived : IsCharacter character text)
    (rest : List Char) :
    stringBody (text ++ rest) = prepend (some character) (stringBody rest) := by
  cases derived with
  | plain noControl noQuote noBackslash =>
      -- All ways to read an escape are tried before, and begin with a backslash.
      have noEscape (others : List Char) :
          character = '\\' → rest = others → False :=
        fun isBackslash _ => noBackslash isBackslash
      rw [List.singleton_append, stringBody, if_neg]
      · simp only [Bool.or_eq_true, decide_eq_true_eq]
        exact not_or.mpr ⟨Nat.not_lt.mpr noControl, noBackslash⟩
      · exact noQuote
      · exact fun _ _ _ _ _ _ _ _ _ => noEscape _
      · exact fun _ _ _ _ _ => noEscape _
      · exact fun _ _ => noEscape _
  | @short mark member =>
      have all : ∀ escape ∈ shortEscapes,
          escape.2 ≠ 'u' ∧ escaped? escape.2 = some escape.1 := by
        decide
      have isEscaped := all _ member
      have noUnit (others : List Char) : mark = 'u' → rest = others → False :=
        fun isU _ => isEscaped.1 isU
      rw [List.cons_append, List.singleton_append, stringBody, isEscaped.2]
      · exact fun _ _ _ _ _ _ _ _ _ => noUnit _
      · exact fun _ _ _ _ _ => noUnit _
  | unit derived =>
      obtain ⟨a, b, c, d, rfl, isUnit⟩ := hexUnit?_of_isUnit derived
      exact stringBody_unit isUnit rest
  | halves highSmall lowSmall code highDerived lowDerived =>
      obtain ⟨a, b, c, d, rfl, isHigh⟩ := hexUnit?_of_isUnit highDerived
      obtain ⟨e, f, g, h, rfl, isLow⟩ := hexUnit?_of_isUnit lowDerived
      exact stringBody_halves highSmall lowSmall code isHigh isLow rest

/-- A string is read up to its closing quote. -/
theorem stringBody_of_areCharacters
    {characters text : List Char}
    (derived : AreCharacters characters text)
    (rest : List Char) :
    stringBody (text ++ '"' :: rest) = some (characters, rest) := by
  induction derived with
  | nil => rw [List.nil_append, stringBody]
  | cons derived others inductionHypothesis =>
      rw [List.append_assoc, stringBody_of_isCharacter derived, inductionHypothesis]
      rfl

end JsonReader

/-! ## Writing strings -/

namespace JsonGrammar

/-- A control character is escaped with its number. -/
theorem isUnit_of_control {code : Nat} (control : code < 0x20) :
    IsUnit code ['\\', 'u', '0', '0', (code / 16).digitChar, (code % 16).digitChar] := by
  have digits : IsUnit (((0 * 16 + 0) * 16 + code / 16) * 16 + code % 16)
      ['\\', 'u', Nat.digitChar 0, Nat.digitChar 0, (code / 16).digitChar,
        (code % 16).digitChar] :=
    .digits (.lower (by decide)) (.lower (by decide)) (.lower (by omega))
      (.lower (by omega))
  have isCode : ((0 * 16 + 0) * 16 + code / 16) * 16 + code % 16 = code := by
    omega
  rw [isCode] at digits
  exact digits

/-- A character is written as one inside a string. -/
theorem isCharacter_jsonCharacter (character : Char) :
    IsCharacter character (jsonCharacter character) := by
  unfold jsonCharacter
  split_ifs with isQuote isBackslash isBackspace isFormFeed isNewline isReturn isTab
    control
  · rw [isQuote]
    exact .short (by decide)
  · rw [isBackslash]
    exact .short (by decide)
  · rw [isBackspace]
    exact .short (by decide)
  · rw [isFormFeed]
    exact .short (by decide)
  · rw [isNewline]
    exact .short (by decide)
  · rw [isReturn]
    exact .short (by decide)
  · rw [isTab]
    exact .short (by decide)
  · exact .unit (isUnit_of_control control)
  · exact .plain (Nat.not_lt.mp control) isQuote isBackslash

theorem areCharacters_flatMap (characters : List Char) :
    AreCharacters characters (characters.flatMap jsonCharacter) := by
  induction characters with
  | nil => exact .nil
  | cons character characters inductionHypothesis =>
      exact .cons (isCharacter_jsonCharacter character) inductionHypothesis

/-- What is written for a text is a string that denotes it. -/
theorem isString_jsonString (content : String) :
    IsString content (jsonString content).toList := by
  rw [jsonString, String.toList_ofList]
  exact .quoted (areCharacters_flatMap content.toList)

example : jsonString "a\"\n\x01é" = "\"a\\\"\\n\\u0001é\"" := by decide

end JsonGrammar

end SqlDialect
