import Mathlib.Data.List.TakeDrop
import Mathlib.Data.List.TakeWhile
import Mathlib.Tactic.SplitIfs
import SqlDialect.Json.Reader
import SqlDialect.Proofs.Json.Grammar

/-!
# Numbers in JSON texts

Every number that the grammar derives is read as what it denotes, if what follows it
does not go on with it (`JsonReader.number_of_isNumber`).
-/

namespace SqlDialect

/-! ## What stands next to a number -/

namespace JsonGrammar

/-- Whether a text can follow a value: it is at its end, or begins with a blank, a
comma or a closing bracket. -/
def MayFollow (text : List Char) : Prop :=
  ∀ character ∈ text.head?, character ∈ ',' :: ']' :: '}' :: blanks

/-- No digit stands at the front of a text. -/
def NoDigitFirst (text : List Char) : Prop :=
  ∀ character ∈ text.head?, character.isDigit = false

theorem areDigits_first
    {digits : List Nat}
    {text : List Char}
    (derived : AreDigits digits text) :
    ∃ first rest, text = first :: rest ∧ first.isDigit = true := by
  cases derived with
  | digits nonempty small =>
      obtain ⟨digit, others, rfl⟩ := List.exists_cons_of_ne_nil nonempty
      refine ⟨digit.digitChar, others.map Nat.digitChar, rfl, ?_⟩
      rw [Nat.isDigit_digitChar, decide_eq_true (small digit List.mem_cons_self)]

/-- What follows a number goes on with none of its parts. -/
theorem MayFollow.first
    {text : List Char}
    (follows : MayFollow text) :
    ∀ character ∈ text.head?,
      character.isDigit = false ∧ character ≠ '.' ∧ character ≠ 'e' ∧
        character ≠ 'E' := by
  have all : ∀ character ∈ ',' :: ']' :: '}' :: blanks,
      character.isDigit = false ∧ character ≠ '.' ∧ character ≠ 'e' ∧
        character ≠ 'E' := by
    simp [blanks]
  intro character isFirst
  exact all character (follows character isFirst)

/-- A power of ten does not go on with the digits or the point before it. -/
theorem isPower_first
    {power? : Option Int}
    {text rest : List Char}
    (derived : IsPower power? text)
    (follows : MayFollow rest) :
    ∀ character ∈ (text ++ rest).head?,
      character.isDigit = false ∧ character ≠ '.' := by
  intro character isFirst
  cases derived with
  | absent =>
      have first := follows.first character isFirst
      exact ⟨first.1, first.2.1⟩
  | present marked signed digitsDerived =>
      cases isFirst
      rcases marked with rfl | rfl <;> decide

theorem isPart_first
    {part? : Option (List Nat)}
    {power? : Option Int}
    {partText powerText rest : List Char}
    (partDerived : IsPart part? partText)
    (powerDerived : IsPower power? powerText)
    (follows : MayFollow rest) :
    NoDigitFirst (partText ++ (powerText ++ rest)) := by
  intro character isFirst
  cases partDerived with
  | absent => exact (isPower_first powerDerived follows character isFirst).1
  | present derived =>
      cases isFirst
      rfl

end JsonGrammar

/-! ## Reading numbers -/

namespace JsonReader

open JsonGrammar

/-- Digits are read as far as they go. -/
theorem digits_of_areDigits
    {read : List Nat}
    {text rest : List Char}
    (derived : AreDigits read text)
    (noDigit : NoDigitFirst rest) :
    digits (text ++ rest) = (read, rest) := by
  cases derived with
  | digits nonempty small =>
      have areDigits : ∀ character ∈ read.map Nat.digitChar,
          character.isDigit = true := by
        intro character member
        obtain ⟨digit, isRead, rfl⟩ := List.mem_map.mp member
        rw [Nat.isDigit_digitChar, decide_eq_true (small digit isRead)]
      have noMore : rest.takeWhile Char.isDigit = [] ∧
          rest.dropWhile Char.isDigit = rest := by
        cases rest with
        | nil => exact ⟨rfl, rfl⟩
        | cons character others =>
            have stops : ¬character.isDigit = true :=
              Bool.eq_false_iff.mp (noDigit character rfl)
            exact ⟨List.takeWhile_cons_of_neg stops, List.dropWhile_cons_of_neg stops⟩
      have values : (read.map Nat.digitChar).map (fun digit => digit.toNat - '0'.toNat) =
          read := by
        rw [List.map_map]
        refine (List.map_congr_left fun digit isRead => ?_).trans (List.map_id read)
        rw [Function.comp_apply, Nat.toNat_digitChar_of_lt_ten (small digit isRead)]
        exact Nat.add_sub_cancel_left _ _
      rw [digits, List.span_eq_takeWhile_dropWhile,
        List.takeWhile_append_of_pos areDigits, List.dropWhile_append_of_pos areDigits,
        noMore.1, noMore.2, List.append_nil]
      exact congrArg (·, rest) values

theorem someDigits_of_areDigits
    {read : List Nat}
    {text rest : List Char}
    (derived : AreDigits read text)
    (noDigit : NoDigitFirst rest) :
    someDigits (text ++ rest) = some (read, rest) := by
  rw [someDigits, digits_of_areDigits derived noDigit]
  cases derived with
  | digits nonempty small =>
      obtain ⟨digit, others, rfl⟩ := List.exists_cons_of_ne_nil nonempty
      rfl

theorem wholePart_of_isWhole
    {whole : List Nat}
    {text rest : List Char}
    (derived : IsWhole whole text)
    (noDigit : NoDigitFirst rest) :
    wholePart (text ++ rest) = some (whole, rest) := by
  cases derived with
  | digits derived noLeadingZero =>
      rw [wholePart, someDigits_of_areDigits derived noDigit]
      split
      case h_1 isZero =>
        cases isZero
        cases noLeadingZero rfl
      case h_2 => rfl

theorem fractionPart_of_isPart
    {part? : Option (List Nat)}
    {text rest : List Char}
    (derived : IsPart part? text)
    (first : ∀ character ∈ rest.head?, character.isDigit = false ∧ character ≠ '.') :
    fractionPart (text ++ rest) = some (part?, rest) := by
  cases derived with
  | absent =>
      rw [List.nil_append]
      unfold fractionPart
      split
      · exact absurd rfl (first '.' rfl).2
      · rfl
  | present derived =>
      have noDigit : NoDigitFirst rest := fun character isFirst =>
        (first character isFirst).1
      rw [List.cons_append, fractionPart, someDigits_of_areDigits derived noDigit]
      rfl

theorem exponentDigits_of_areDigits
    {read : List Nat}
    {text rest : List Char}
    (derived : AreDigits read text)
    (noDigit : NoDigitFirst rest)
    (negative : Bool) :
    exponentDigits negative (text ++ rest) =
      some (some (if negative then -(wholeNumber read : Int) else wholeNumber read),
        rest) := by
  rw [exponentDigits, someDigits_of_areDigits derived noDigit]
  rfl

theorem exponentPart_of_isPower
    {power? : Option Int}
    {text rest : List Char}
    (derived : IsPower power? text)
    (follows : MayFollow rest) :
    exponentPart (text ++ rest) = some (power?, rest) := by
  cases derived with
  | absent =>
      cases rest with
      | nil => rfl
      | cons character others =>
          obtain ⟨-, -, noSmall, noLarge⟩ := follows.first character rfl
          have noMark :
              ¬(decide (character = 'e') || decide (character = 'E')) = true := by
            simp only [Bool.or_eq_true, decide_eq_true_eq]
            exact not_or.mpr ⟨noSmall, noLarge⟩
          unfold exponentPart
          exact if_neg noMark
  | present marked signed derived =>
      have noDigit : NoDigitFirst rest := fun character isFirst =>
        (follows.first character isFirst).1
      rw [List.cons_append, List.append_assoc]
      unfold exponentPart
      refine (if_pos (by simpa using marked)).trans ?_
      cases signed with
      | absent =>
          -- A sign is looked for first, and none of the two is a digit.
          obtain ⟨first, others, isText, isDigit⟩ := areDigits_first derived
          rw [List.nil_append]
          split
          case h_1 isMinus =>
            rw [isText] at isMinus
            cases isMinus
            cases isDigit
          case h_2 isPlus =>
            rw [isText] at isPlus
            cases isPlus
            cases isDigit
          case h_3 => exact exponentDigits_of_areDigits derived noDigit false
      | plus => exact exponentDigits_of_areDigits derived noDigit false
      | minus => exact exponentDigits_of_areDigits derived noDigit true

/-- The parts of a number are read one after another, and then put together. -/
theorem unsignedNumber_of_parts
    {whole : List Nat}
    {part? : Option (List Nat)}
    {power? : Option Int}
    {wholeText partText powerText rest : List Char}
    (wholeDerived : IsWhole whole wholeText)
    (partDerived : IsPart part? partText)
    (powerDerived : IsPower power? powerText)
    (follows : MayFollow rest)
    (negative : Bool) :
    unsignedNumber negative (wholeText ++ (partText ++ (powerText ++ rest))) =
      (if part?.isNone && power?.isNone then
        JsonNumber.ofWhole? negative whole
      else
        JsonNumber.ofParts? negative whole (part?.getD []) (power?.getD 0)).map
        fun number => (number, rest) := by
  have wholeRead :=
    wholePart_of_isWhole wholeDerived (isPart_first partDerived powerDerived follows)
  have partRead := fractionPart_of_isPart partDerived (isPower_first powerDerived follows)
  have powerRead := exponentPart_of_isPower powerDerived follows
  simp only [unsignedNumber, wholeRead, partRead, powerRead, Option.bind_eq_bind,
    Option.bind_some]
  split_ifs with isInteger
  · cases JsonNumber.ofWhole? negative whole <;> rfl
  · cases JsonNumber.ofParts? negative whole (part?.getD []) (power?.getD 0) <;> rfl

/-- A minus is read as the sign of a number. -/
theorem number_of_isMinus
    {negative : Bool}
    {minusText wholeText : List Char}
    {whole : List Nat}
    (signed : IsMinus negative minusText)
    (wholeDerived : IsWhole whole wholeText)
    (rest : List Char) :
    number (minusText ++ (wholeText ++ rest)) =
      unsignedNumber negative (wholeText ++ rest) := by
  cases signed with
  | absent =>
      cases wholeDerived with
      | digits derived noLeadingZero =>
          obtain ⟨first, others, rfl, isDigit⟩ := areDigits_first derived
          rw [List.nil_append]
          unfold number
          split
          case h_1 isMinus =>
            cases isMinus
            cases isDigit
          case h_2 => rfl
  | present => rfl

/-- A number is read as what it denotes. -/
theorem number_of_isNumber
    {denoted : JsonNumber}
    {text rest : List Char}
    (derived : IsNumber denoted text)
    (follows : MayFollow rest) :
    number (text ++ rest) = some (denoted, rest) := by
  cases derived with
  | @integer negative _ _ _ _ signed wholeDerived denotes =>
      have read := unsignedNumber_of_parts wholeDerived .absent .absent follows negative
      rw [List.append_assoc, number_of_isMinus signed wholeDerived]
      refine read.trans ?_
      rw [Option.isNone_none, Option.isNone_none, Bool.and_self, if_pos rfl, denotes]
      rfl
  | @fraction negative whole part? power? _ _ _ _ _ signed wholeDerived partDerived
      powerDerived noInteger denotes =>
      have isFraction : ¬(part?.isNone && power?.isNone) = true := by
        cases part? <;> cases power? <;> simp_all
      rw [List.append_assoc, List.append_assoc, List.append_assoc,
        number_of_isMinus signed wholeDerived,
        unsignedNumber_of_parts wholeDerived partDerived powerDerived follows,
        if_neg isFraction, denotes]
      rfl

end JsonReader

end SqlDialect
