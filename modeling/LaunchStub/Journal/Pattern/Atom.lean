import LaunchStub.Journal.Pattern.Options

/-!
# Characters behind a backslash

A backslash takes its meaning from a mark that follows it, and gives one to a letter that follows
it: a control character, the set of digits, an edge of the text, or a character that is given by
its number.
-/

namespace LaunchStub

/-- What the text behind a backslash stands for. -/
inductive PatternAtom where
  /-- A character. -/
  | char (c : PatternChar)
  /-- A digit, a blank or a part of a word; or anything else. -/
  | shorthand (negated : Bool)
  /-- The start or the end of the text. -/
  | edge
  /-- A place where a word starts or ends, or where none does. -/
  | wordEdge
  deriving DecidableEq, Repr

namespace PatternAtom

/-- The letters and marks with a meaning of their own. -/
def meanings : List (Char × PatternAtom) :=
  [('a', .char ⟨'\x07', false⟩), ('f', .char ⟨'\x0c', false⟩), ('n', .char ⟨'\n', false⟩),
   ('r', .char ⟨'\r', false⟩), ('t', .char ⟨'\t', false⟩), ('v', .char ⟨'\x0b', false⟩),
   ('d', .shorthand false), ('s', .shorthand false), ('w', .shorthand false),
   ('D', .shorthand true), ('S', .shorthand true), ('W', .shorthand true),
   ('A', .edge), ('z', .edge),
   ('b', .wordEdge), ('B', .wordEdge), ('<', .wordEdge), ('>', .wordEdge)]

/-- What a single character behind a backslash stands for; other marks stand for themselves. -/
def ofChar? (c : Char) : Option PatternAtom :=
  match meanings.lookup c with
  | some atom => some atom
  | none => if c.toNat < 128 ∧ !c.isAlphanum then some (.char ⟨c, false⟩) else none

/-- The digits of the number that a character is given by. -/
def digits : List Char := "0123456789abcdef".toList

/-- The letters that a character's number follows, and how many digits it has. -/
def numberLetters : List (Char × Nat) := [('x', 2), ('u', 4), ('U', 8)]

/-- Reads so many digits of a number of which the first ones are read. -/
def readNumber? (options : PatternOptions) :
    Nat → Nat → List Char → Option (Nat × List Char)
  | 0, number, text => some (number, text)
  | count + 1, number, text =>
    match options.skip text with
    | [] => none
    | c :: text => match digits.idxOf? c.toLower with
      | none => none
      | some digit => readNumber? options count (digits.length * number + digit) text

/-- Reads what stands behind a backslash. -/
def read? (options : PatternOptions) : List Char → Option (PatternAtom × List Char)
  | [] => none
  | c :: text => match numberLetters.lookup c with
    | none => (ofChar? c).map (·, text)
    | some count => match readNumber? options count 0 text with
      | none => none
      | some (number, text) =>
        if number.isValidChar then some (.char ⟨Char.ofNat number, c = 'x'⟩, text) else none

/-- Is it taken outside of sets? -/
def isTaken (options : PatternOptions) : PatternAtom → Bool
  | .char c => options.takesChar c
  | .shorthand negated => options.takesShorthand negated
  | .edge => true
  | .wordEdge => options.takesWordEdge

/-- Is it taken as a member of a set? A place is no member. -/
def isTakenInSet (options : PatternOptions) : PatternAtom → Bool
  | .char c => options.takesMember c.char
  | .shorthand negated => options.takesShorthand negated
  | .edge | .wordEdge => false

end PatternAtom

end LaunchStub
