/-!
# Text compared without regard to ASCII case

Only the letters `A` to `Z` have a lower-case form here; every other character stands for itself.
-/

namespace RowLog

def asciiLower (text : String) : List Char :=
  text.toList.map Char.toLower

/-- Whether two texts are the same once the case of ASCII letters is disregarded. -/
def sameIgnoringCase (left right : String) : Bool :=
  asciiLower left == asciiLower right

theorem sameIgnoringCase_iff {left right : String} :
    sameIgnoringCase left right = true ↔ asciiLower left = asciiLower right := by
  simp [sameIgnoringCase]

@[simp]
theorem sameIgnoringCase_refl (text : String) : sameIgnoringCase text text = true := by
  simp [sameIgnoringCase_iff]

theorem sameIgnoringCase_comm (left right : String) :
    sameIgnoringCase left right = sameIgnoringCase right left := by
  rw [Bool.eq_iff_iff, sameIgnoringCase_iff, sameIgnoringCase_iff, eq_comm]

theorem sameIgnoringCase_trans {left middle right : String}
    (first : sameIgnoringCase left middle = true) (second : sameIgnoringCase middle right = true) :
    sameIgnoringCase left right = true := by
  rw [sameIgnoringCase_iff] at *
  exact first.trans second

theorem sameIgnoringCase_congr {left middle : String}
    (same : sameIgnoringCase left middle = true) (right : String) :
    sameIgnoringCase left right = sameIgnoringCase middle right := by
  rw [sameIgnoringCase, sameIgnoringCase_iff.mp same, sameIgnoringCase]

end RowLog
