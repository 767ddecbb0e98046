/-!
# Keywords

The reserved words of the dialect. Each is written in upper case, and is read
in any mix of the cases of ASCII. Words that are longer than every reserved word,
or that have letters outside ASCII, are not even looked up.

`Keyword.ofLetters?_eq_some_iff` says exactly which words are keywords: no letter
outside ASCII is ever folded onto a letter of a keyword, so leaving the others
out loses none.
-/

namespace SqlDialect

/-- A reserved word. -/
inductive Keyword
  | AND
  | AS
  | DELETE
  | FROM
  | INSERT
  | INTO
  | SELECT
  | SET
  | UPDATE
  | VALUES
  | WHERE
  deriving DecidableEq

namespace Keyword

/-- All reserved words, in alphabetical order. -/
def all : List Keyword :=
  [AND, AS, DELETE, FROM, INSERT, INTO, SELECT, SET, UPDATE, VALUES, WHERE]

theorem mem_all (keyword : Keyword) : keyword ∈ all := by
  cases keyword <;> decide

/-- A reserved word as it is written in a statement. -/
def text : Keyword → String
  | AND => "AND"
  | AS => "AS"
  | DELETE => "DELETE"
  | FROM => "FROM"
  | INSERT => "INSERT"
  | INTO => "INTO"
  | SELECT => "SELECT"
  | SET => "SET"
  | UPDATE => "UPDATE"
  | VALUES => "VALUES"
  | WHERE => "WHERE"

/-- The name of a reserved word in a description of a token. -/
def name : Keyword → String
  | AND => "And"
  | AS => "As"
  | DELETE => "Delete"
  | FROM => "From"
  | INSERT => "Insert"
  | INTO => "Into"
  | SELECT => "Select"
  | SET => "Set"
  | UPDATE => "Update"
  | VALUES => "Values"
  | WHERE => "Where"

/-- Reserved words are told apart by their spellings. -/
theorem text_injective
    {left right : Keyword}
    (sameText : left.text = right.text) :
    left = right := by
  cases left <;> cases right <;> revert sameText <;> decide

/-- The number of letters of the longest reserved words. -/
def maxLength : Nat := 6

/-- Whether a character is one of ASCII. -/
def isAscii (character : Char) : Bool :=
  character.toNat < 128

/-- Whether letters are looked up among the reserved words: there are not too
many of them, and all are of ASCII. -/
def isLookedUp (letters : List Char) : Bool :=
  letters.length ≤ maxLength && letters.all isAscii

/-- The reserved word that some letters spell, whatever their case. -/
def ofLetters? (letters : List Char) : Option Keyword :=
  if isLookedUp letters then
    all.find? fun keyword => keyword.text.toList = letters.map Char.toUpper
  else
    none

theorem length_text_le (keyword : Keyword) :
    keyword.text.toList.length ≤ maxLength := by
  cases keyword <;> decide

theorem all_isAscii_text (keyword : Keyword) :
    keyword.text.toList.all isAscii = true := by
  cases keyword <;> decide

/-- Folding the case of ASCII leads from no other character into ASCII. -/
theorem isAscii_of_isAscii_toUpper
    {character : Char}
    (ascii : isAscii character.toUpper = true) :
    isAscii character = true := by
  unfold Char.toUpper at ascii
  by_cases small : character.val ≥ 'a'.val ∧ character.val ≤ 'z'.val
  · have upTo : character.val.toNat ≤ 122 := UInt32.le_iff_toNat_le.mp small.2
    simp only [isAscii, decide_eq_true_eq, Char.toNat]
    omega
  · rwa [dif_neg small] at ascii

/-- Every spelling of a reserved word is looked up. -/
theorem isLookedUp_of_spelled
    {letters : List Char}
    {keyword : Keyword}
    (spelled : keyword.text.toList = letters.map Char.toUpper) :
    isLookedUp letters = true := by
  have short : letters.length ≤ maxLength := by
    rw [← List.length_map Char.toUpper, ← spelled]
    exact length_text_le keyword
  have ascii : letters.all isAscii = true := by
    rw [List.all_eq_true]
    intro letter member
    apply isAscii_of_isAscii_toUpper
    apply List.all_eq_true.mp (all_isAscii_text keyword)
    rw [spelled]
    exact List.mem_map_of_mem member
  simp [isLookedUp, short, ascii]

/-- Letters spell a reserved word exactly if they are its text after folding
the case of ASCII. -/
theorem ofLetters?_eq_some_iff
    {letters : List Char}
    {keyword : Keyword} :
    ofLetters? letters = some keyword ↔
      keyword.text.toList = letters.map Char.toUpper := by
  unfold ofLetters?
  constructor
  · intro found
    split at found
    · simpa using List.find?_some found
    · simp at found
  · intro spelled
    rw [isLookedUp_of_spelled spelled, if_pos rfl]
    cases result : all.find? fun keyword =>
        keyword.text.toList = letters.map Char.toUpper with
    | none =>
        have unspelled := List.find?_eq_none.mp result keyword (mem_all keyword)
        simp [spelled] at unspelled
    | some other =>
        have spelledOther : other.text.toList = letters.map Char.toUpper := by
          simpa using List.find?_some result
        rw [text_injective (String.toList_inj.mp (spelledOther.trans spelled.symm))]

/-- The text of a reserved word spells it. -/
theorem ofLetters?_text (keyword : Keyword) :
    ofLetters? keyword.text.toList = some keyword := by
  rw [ofLetters?_eq_some_iff]
  cases keyword <;> decide

end Keyword

end SqlDialect
