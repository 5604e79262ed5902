/-!
# Classes of characters given by code point ranges

Character classes beyond ASCII are data: a list of inclusive ranges of code
points, in ascending order. Membership is one scan of that list, so a class
is only ever as right as its table.
-/

namespace MarkupSchema.Text

/-- Whether the code point of `c` lies in one of the inclusive ranges. -/
def within (ranges : List (Nat × Nat)) (c : Char) : Bool :=
  ranges.any fun range => range.1 ≤ c.toNat && c.toNat ≤ range.2

end MarkupSchema.Text
