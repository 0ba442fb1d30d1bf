set_option autoImplicit false

namespace MediaSearch.Text

/-- Whether `code` lies in one of `ranges`. The ranges are in increasing order and do not overlap, so
the search stops at the first range above `code`. -/
def inRanges : List (Nat × Nat) → Nat → Bool
  | [], _ => false
  | (low, high) :: rest, code =>
    if code < low then false else if code ≤ high then true else inRanges rest code

end MediaSearch.Text
