/-!
# How deep a pattern is nested

A part of a pattern that has no parts has depth zero. Each thing that is made of parts lies one
deeper than the deepest of them.

## The model

`Nesting.joined` is the depth of parts that stand together: in a row, as choices, or as members of
a set. A single part stands for itself, and no part is as good as one without parts.
-/

namespace LaunchStub

namespace Nesting

/-- The depth of the deepest of several parts. -/
def deepest (depths : List Nat) : Nat := depths.max?.getD 0

/-- The depth of parts that stand together. -/
def joined : List Nat → Nat
  | [] => 0
  | [depth] => depth
  | depths => deepest depths + 1

end Nesting

end LaunchStub
