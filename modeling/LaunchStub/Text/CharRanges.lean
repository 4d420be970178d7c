/-!
# Sets of characters

A property of characters that has no rule shorter than its extent is given as a list of ranges of
code points.

## The model

The ranges are closed, in ascending order and apart, so the first one that does not end before a
character decides whether the character is in the set.
-/

namespace LaunchStub.Text

/-- A set of characters: closed ranges of code points, in ascending order and apart. -/
abbrev CharRanges := List (Nat × Nat)

namespace CharRanges

/-- Is the character in the set? -/
def holds (ranges : CharRanges) (c : Char) : Bool :=
  match ranges.find? (c.toNat ≤ ·.2) with
  | some range => range.1 ≤ c.toNat
  | none => false

end CharRanges

end LaunchStub.Text
