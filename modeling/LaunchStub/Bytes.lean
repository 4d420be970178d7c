/-!
# Byte strings

File names, arguments and variable values are whatever bytes the operating system hands over; they
need not be text. This module names that carrier and the passage from text to bytes.

## The model

A byte string is a list of octets, so that prefixes, joins and searches are the list operations and
their lemmas. Text that the stub writes itself is a `String`; `Bytes.ofText` is its UTF-8 form, and
it turns appending into appending (`Bytes.ofText_append`).
-/

namespace LaunchStub

/-- A string of the operating system: any octets, in order. -/
abbrev Bytes := List UInt8

namespace Bytes

/-- The octet that ends a line. -/
def newline : UInt8 := 0x0a

/-- The octet between the parts of a file name. -/
def slash : UInt8 := 0x2f

/-- The octet between the entries of a search path. -/
def colon : UInt8 := 0x3a

/-- The octet between a variable's name and its value. -/
def equals : UInt8 := 0x3d

/-- The octet that no name handed to the operating system may hold. -/
def nul : UInt8 := 0x00

/-- The UTF-8 form of a text. -/
def ofText (text : String) : Bytes := text.toList.flatMap String.utf8EncodeChar

/-- The form of a joined text is the join of the forms. -/
@[simp] theorem ofText_append (s t : String) : ofText (s ++ t) = ofText s ++ ofText t := by
  simp [ofText]

/-- The maximal runs between separators, in order: one more than there are separators. -/
def splitAt (separator : UInt8) : Bytes → List Bytes
  | [] => [[]]
  | b :: rest =>
    if b = separator then [] :: splitAt separator rest
    else match splitAt separator rest with
      | [] => [[b]]
      | run :: runs => (b :: run) :: runs

/-- Splitting leaves at least one run. -/
theorem splitAt_ne_nil (separator : UInt8) (s : Bytes) : splitAt separator s ≠ [] := by
  cases s with
  | nil => simp [splitAt]
  | cons b rest =>
    unfold splitAt
    split
    · simp
    · split <;> simp

/-- Dictionary order on octets; a proper prefix comes first. -/
def le : Bytes → Bytes → Bool
  | [], _ => true
  | _ :: _, [] => false
  | a :: s, b :: t => if a < b then true else if b < a then false else le s t

/-- The four octets of a word, least significant first. -/
def ofWord (word : UInt32) : Bytes :=
  [word.toUInt8, (word >>> 8).toUInt8, (word >>> 16).toUInt8, (word >>> 24).toUInt8]

/-- The word that four octets spell, least significant first; any other number spells none. -/
def word? : Bytes → Option UInt32
  | [a, b, c, d] =>
    some (a.toUInt32 ||| (b.toUInt32 <<< 8) ||| (c.toUInt32 <<< 16) ||| (d.toUInt32 <<< 24))
  | _ => none

end Bytes

end LaunchStub
