/-!
# Character classes as ranges of code points

A character class is written down as a list of closed ranges of code points.
`inCodeRanges` decides membership, and its one lemma says what it decides.
-/

namespace SqlDialect

/-- A closed range of code points, written as its first and its last member. -/
abbrev CodeRange := Nat × Nat

/-- Whether a character lies in one of the given ranges. -/
def inCodeRanges (ranges : List CodeRange) (character : Char) : Bool :=
  ranges.any fun range =>
    range.1 ≤ character.toNat && character.toNat ≤ range.2

/-- A character is in some ranges if its code point is within the bounds of one of
them. -/
theorem inCodeRanges_iff
    (ranges : List CodeRange)
    (character : Char) :
    inCodeRanges ranges character = true ↔
      ∃ range ∈ ranges,
        range.1 ≤ character.toNat ∧ character.toNat ≤ range.2 := by
  simp [inCodeRanges]

end SqlDialect
