import LaunchStub.Journal.Pattern.CharSet
import LaunchStub.Journal.Pattern.Opening

/-!
# Patterns

A pattern describes texts: characters stand for themselves, a dot for any one, brackets hold a set
of characters, parentheses group, a bar separates choices, and a star, a plus sign or a question
mark repeats what is before it. The journal never matches one, but it does not take a filter with a
pattern that cannot be read, that is nested too deep, or that a reader without tables of characters
cannot understand.

## The model

`PatternReader.step?` reads one thing outside of sets. Nothing is kept of a part but its depth, and
whether it may be repeated. An open group holds the parts of its last choice and the depths of the
choices before; options hold up to the end of the group they are given in.

## Honest scope

Repetitions with a count, and sets that are named by a word in braces, are not taken: in a filter
no brace can close them.

The patterns, here and in the modules below this one, are those that the library which keeps the
journal takes in a filter. The stub reads none itself: all that it sees of a pattern is whether the
filter around it is taken.
-/

namespace LaunchStub

/-- A part of a pattern. -/
structure PatternPart where
  /-- How deep it is nested. -/
  depth : Nat := 0
  /-- May it be repeated? -/
  repeatable : Bool := true
  deriving DecidableEq, Repr

/-- A group whose end is not read yet, or the pattern itself. -/
structure OpenGroup where
  /-- The options that hold for what follows in it. -/
  options : PatternOptions := {}
  /-- The depths of its choices but the last one. -/
  choices : List Nat := []
  /-- The parts of its last choice, the latest in front. -/
  row : List PatternPart := []
  deriving DecidableEq, Repr

namespace OpenGroup

/-- The depth of its last choice. -/
def rowDepth (g : OpenGroup) : Nat := Nesting.joined (g.row.map PatternPart.depth)

/-- The depth of what the parentheses of a group hold. -/
def depth (g : OpenGroup) : Nat := Nesting.joined (g.rowDepth :: g.choices)

/-- A group with one more part. -/
def add (g : OpenGroup) (part : PatternPart) : OpenGroup := { g with row := part :: g.row }

/-- A group with one more part, if it is taken. -/
def addIf (g : OpenGroup) (taken : Bool) : Option OpenGroup :=
  if taken then some (g.add {}) else none

/-- A group after a bar. -/
def choose (g : OpenGroup) : OpenGroup := { g with choices := g.rowDepth :: g.choices, row := [] }

/-- A group whose latest part is repeated. -/
def repeat? (g : OpenGroup) : Option OpenGroup :=
  match g.row with
  | part :: row =>
    if part.repeatable then some { g with row := ⟨part.depth + 1, true⟩ :: row } else none
  | [] => none

end OpenGroup

/-- What is read of a pattern. -/
structure PatternReader where
  /-- The innermost of the open groups. -/
  group : OpenGroup := {}
  /-- The groups around it. -/
  outer : List OpenGroup := []
  /-- The names of groups. -/
  names : List (List Char) := []
  deriving DecidableEq, Repr

namespace PatternReader

/-- Opens a group with these options. -/
def openGroup (r : PatternReader) (options : PatternOptions) : PatternReader :=
  { r with group := { options := options }, outer := r.group :: r.outer }

/-- Reads what an opening parenthesis opens. No two groups have the same name. -/
def readOpening? (r : PatternReader) (text : List Char) : Option (PatternReader × List Char) :=
  match GroupOpening.read? r.group.options text with
  | none => none
  | some (.group options, text) => some (r.openGroup options, text)
  | some (.named name, text) =>
    if r.names.contains name then none
    else some ({ r.openGroup r.group.options with names := name :: r.names }, text)
  | some (.change options, text) =>
    some ({ r with group := { r.group with options := options }.add ⟨0, false⟩ }, text)

/-- Closes the innermost group. -/
def closeGroup? (r : PatternReader) : Option PatternReader :=
  match r.outer with
  | [] => none
  | around :: outer =>
    some { r with group := around.add ⟨r.group.depth + 1, true⟩, outer := outer }

/-- Reads a set, behind its bracket. -/
def readSet? (r : PatternReader) (fuel : Nat) (text : List Char) :
    Option (PatternReader × List Char) :=
  match OpenSet.readCaret? r.group.options text with
  | none => none
  | some text => match OpenSet.read? r.group.options fuel {} [] text with
    | none => none
    | some (depth, text) => some ({ r with group := r.group.add ⟨depth, true⟩ }, text)

/-- Reads one thing outside of sets, which starts with this character. The number is at least the
length of the text behind it. A question mark behind a repetition belongs to it. -/
def step? (r : PatternReader) (fuel : Nat) (c : Char) (text : List Char) :
    Option (PatternReader × List Char) :=
  let part? (group : Option OpenGroup) (text : List Char) : Option (PatternReader × List Char) :=
    group.map fun group => ({ r with group := group }, text)
  match c with
  | '(' => r.readOpening? text
  | ')' => r.closeGroup?.map (·, text)
  | '[' => r.readSet? fuel text
  | '|' => part? (some r.group.choose) text
  | '{' => none
  | '*' | '+' | '?' =>
    part? r.group.repeat? (if text.head? = some '?' then text.tail else text)
  | '.' => part? (r.group.addIf r.group.options.takesDot) text
  | '^' | '$' => part? (r.group.addIf true) text
  | '\\' => match PatternAtom.read? r.group.options text with
    | none => none
    | some (atom, text) => part? (r.group.addIf (atom.isTaken r.group.options)) text
  | c => part? (r.group.addIf (r.group.options.takesChar ⟨c, false⟩)) text

/-- Reads a text to its end. The number is at least its length. -/
def read? : Nat → PatternReader → List Char → Option PatternReader
  | fuel, r, text => match fuel, r.group.options.skip text with
    | _, [] => some r
    | 0, _ :: _ => none
    | fuel + 1, c :: text => match r.step? fuel c text with
      | none => none
      | some (r, text) => read? fuel r text

/-- How deep a pattern may be nested. -/
def maxDepth : Nat := 250

/-- May the pattern end here? All groups are closed, and it is not nested too deep. -/
def mayEnd (r : PatternReader) : Bool := r.outer.isEmpty && r.group.depth ≤ maxDepth

end PatternReader

/-- Can the text be read as a pattern? -/
def isPattern (text : List Char) : Bool :=
  (PatternReader.read? text.length {} text).any PatternReader.mayEnd

end LaunchStub
