/-! Sets of characters written as ascending ranges of code points. Membership stops at the first
range that lies above the code point, so the ranges have to be sorted. -/
namespace ReferenceSite.Text

def inRanges : List (Nat × Nat) → Nat → Bool
  | [],_ => false
  | (first,last) :: rest,n => decide (first ≤ n) && (decide (n ≤ last) || inRanges rest n)

end ReferenceSite.Text
