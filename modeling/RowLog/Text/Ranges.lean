/-!
# Sets of characters given by code ranges

A set of characters is written as the list of its runs, each by the codes of its first and of its
last member. Main statement: a character belongs to such a set exactly if some run spans its code.
-/

namespace RowLog

/-- A set of characters: closed ranges of character codes. -/
abbrev CodeRanges := List (Nat × Nat)

namespace CodeRanges

def contains (ranges : CodeRanges) (character : Char) : Bool :=
  ranges.any fun range => range.1 ≤ character.toNat && character.toNat ≤ range.2

theorem contains_iff {ranges : CodeRanges} {character : Char} :
    ranges.contains character = true ↔
      ∃ range ∈ ranges, range.1 ≤ character.toNat ∧ character.toNat ≤ range.2 := by
  simp [contains]

end CodeRanges

end RowLog
