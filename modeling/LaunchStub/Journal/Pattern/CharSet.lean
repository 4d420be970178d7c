import LaunchStub.Journal.Pattern.Atom
import LaunchStub.Journal.Pattern.Nesting

/-!
# Sets of characters in a pattern

A set stands in brackets. Its members are characters, ranges of them, sets that are named by a
word, and further sets; with a caret in front it holds all but these. An operator takes what two
sets share, what is only in the first, or what is in one of them alone.

## The model

`OpenSet.readMark?` reads one thing in a set, and `OpenSet.read?` all up to the end of the
outermost set, with the sets that are open in a list. A dash is many things: a member where the set
starts or where no range can follow, a part of an operator if there are two, and else the mark of a
range.
-/

namespace LaunchStub

/-- A set whose end is not read yet. -/
structure OpenSet where
  /-- The depth of what stands in front of the last operator, if there is one. -/
  left : Option Nat := none
  /-- The depths of the members behind it. -/
  members : List Nat := []
  /-- Is nothing read but dashes? -/
  atStart : Bool := true
  deriving DecidableEq, Repr

/-- One thing in a set. -/
inductive SetMark where
  /-- A dash at the start of the set. -/
  | leadingDash
  /-- A member without members of its own. -/
  | member
  /-- An operator. -/
  | operator
  /-- The start of a further set. -/
  | opening
  /-- The end of the set. -/
  | closing
  deriving DecidableEq, Repr

namespace OpenSet

/-- The words for sets. -/
def words : List String :=
  ["alnum", "alpha", "ascii", "blank", "cntrl", "digit", "graph", "lower", "print", "punct",
   "space", "upper", "word", "xdigit"]

/-- Reads a set that is named by a word, behind its bracket; does it hold all but what the word
says? -/
def readWord? : List Char → Option (Bool × List Char)
  | ':' :: text =>
    let negated := text.head? = some '^'
    let text := if negated then text.tail else text
    match text.dropWhile (· ≠ ':') with
    | ':' :: ']' :: rest =>
      if words.contains (String.ofList (text.takeWhile (· ≠ ':'))) then some (negated, rest)
      else none
    | _ => none
  | _ => none

/-- Passes over the caret of a set, if there is one. -/
def readCaret? (options : PatternOptions) (text : List Char) : Option (List Char) :=
  match options.skip text with
  | '^' :: text => if options.takesNegation then some text else none
  | text => some text

/-- Reads a character of a set, or what stands behind a backslash. -/
def readAtom? (options : PatternOptions) : List Char → Option (PatternAtom × List Char)
  | [] => none
  | c :: text => if c = '\\' then PatternAtom.read? options text else some (.char ⟨c, false⟩, text)

/-- The mark behind a dash that decides if the dash is that of a range. Of a comment only the
number sign is passed over. -/
def markBehind? (options : PatternOptions) (text : List Char) : Option Char :=
  if options.spaced then
    match text.dropWhile Text.isBlank with
    | '#' :: text => (text.dropWhile Text.isBlank).head?
    | text => text.head?
  else text.head?

/-- Does a range go on behind a dash? -/
def goesOn (options : PatternOptions) (text : List Char) : Bool :=
  let mark := markBehind? options text
  mark ≠ some ']' && mark ≠ some '-'

/-- Reads the end of a range. -/
def readHigh? (options : PatternOptions) (low : PatternAtom) (text : List Char) :
    Option (List Char) :=
  match low, readAtom? options (options.skip text) with
  | .char low, some (.char high, text) =>
    if low.char ≤ high.char && options.takesMember low.char && options.takesMember high.char then
      some text
    else none
  | _, _ => none

/-- Reads a character, or a range of characters. -/
def readMember? (options : PatternOptions) (text : List Char) : Option (List Char) :=
  match readAtom? options text with
  | none => none
  | some (low, text) =>
    let single := if low.isTakenInSet options then some text else none
    match options.skip text with
    | '-' :: behind => if goesOn options behind then readHigh? options low behind else single
    | _ => single

/-- Reads one thing in a set. -/
def readMark? (options : PatternOptions) (s : OpenSet) (text : List Char) :
    Option (SetMark × List Char) :=
  match options.skip text with
  | [] => none
  | c :: text =>
    if s.atStart && c = '-' then
      if options.takesMember c then some (.leadingDash, text) else none
    else if s.atStart && s.members.isEmpty && c = ']' then
      if options.takesMember c then some (.member, text) else none
    else if c = ']' then some (.closing, text)
    else if c = '[' then
      match readWord? text with
      | some (negated, text) => if options.takesWord negated then some (.member, text) else none
      | none => (readCaret? options text).map (.opening, ·)
    else if "&-~".toList.contains c && text.head? = some c then some (.operator, text.tail)
    else (readMember? options (c :: text)).map (.member, ·)

/-- The depth of what the brackets of a set hold. -/
def depth (s : OpenSet) : Nat :=
  match s.left with
  | none => Nesting.joined s.members
  | some left => Nesting.joined [left, Nesting.joined s.members]

/-- A set with one more member, of this depth. -/
def add (s : OpenSet) (depth : Nat) : OpenSet :=
  { s with members := depth :: s.members, atStart := false }

/-- Reads a set up to its end; gives its depth, and the text behind it. The number bounds the
things that are read, and with the sets that are open around it comes what is read of them. -/
def read? (options : PatternOptions) :
    Nat → OpenSet → List OpenSet → List Char → Option (Nat × List Char)
  | 0, _, _, _ => none
  | fuel + 1, s, outer, text =>
    match s.readMark? options text with
    | none => none
    | some (.leadingDash, text) =>
      read? options fuel { s with members := 0 :: s.members } outer text
    | some (.member, text) => read? options fuel (s.add 0) outer text
    | some (.operator, text) => read? options fuel ⟨some s.depth, [], false⟩ outer text
    | some (.opening, text) => read? options fuel {} (s :: outer) text
    | some (.closing, text) => match outer with
      | [] => some (s.depth + 1, text)
      | around :: outer => read? options fuel (around.add (s.depth + 1)) outer text

end OpenSet

end LaunchStub
