import LaunchStub.Text.Blank

/-!
# How a pattern is read

A pattern is about characters, or about single bytes; it may take a letter in either case for the
same; and it may be written with blanks and comments that do not count. Options in the pattern
change that for what follows.

## The model

`PatternOptions` says how a pattern is read at some place. Two things limit what is taken there.
There are no tables at hand that say which characters are letters, digits or blanks, or which
letters differ in their case only, so a pattern about characters may not need them. And what is
matched must consist of whole characters, so a pattern about bytes may not have a part that takes a
byte from the middle of one.
-/

namespace LaunchStub

/-- A character that a pattern names. -/
structure PatternChar where
  /-- The character. -/
  char : Char
  /-- Is it named as the byte of that number? -/
  isByte : Bool := false
  deriving DecidableEq, Repr

/-- How a pattern is read at some place. -/
structure PatternOptions where
  /-- Is a letter in either case the same? -/
  anyCase : Bool := false
  /-- Is the pattern about characters, not about bytes? -/
  unicode : Bool := true
  /-- Do blanks and comments not count? -/
  spaced : Bool := false
  deriving DecidableEq, Repr

namespace PatternOptions

/-- The letters for options, and the mark behind which options are taken back. -/
def letters : List Char := "imsUuRx-".toList

/-- Is the word one that changes options: every letter once, and some letter behind the mark? -/
def isChange (word : List Char) : Bool :=
  word.all letters.contains && decide word.Nodup && word.getLast? ≠ some '-'

/-- The options that a word leaves; what it does not name stays. -/
def change (options : PatternOptions) (word : List Char) : PatternOptions :=
  let given := word.takeWhile (· ≠ '-')
  let pick (letter : Char) (now : Bool) : Bool :=
    given.contains letter || now && !word.contains letter
  ⟨pick 'i' options.anyCase, pick 'u' options.unicode, pick 'x' options.spaced⟩

/-- The text behind blanks and comments; a comment is a number sign and what follows it on its
line. -/
def skipBlanks (inComment : Bool) : List Char → List Char
  | [] => []
  | c :: text =>
    if inComment then skipBlanks (c ≠ '\n') text
    else if Text.isBlank c then skipBlanks false text
    else if c = '#' then skipBlanks true text
    else c :: text

/-- The text behind what does not count. -/
def skip (options : PatternOptions) (text : List Char) : List Char :=
  if options.spaced then skipBlanks false text else text

/-- Is a character taken that stands for itself? -/
def takesChar (options : PatternOptions) (c : PatternChar) : Bool :=
  if options.unicode then !options.anyCase else !c.isByte || c.char.toNat < 128

/-- Is a character taken as a member of a set? -/
def takesMember (options : PatternOptions) (c : Char) : Bool :=
  if options.unicode then !options.anyCase else c.toNat < 128

/-- Is a set taken that is named by a word, or the set of all but its members? -/
def takesWord (options : PatternOptions) (negated : Bool) : Bool :=
  if options.unicode then !options.anyCase else !negated

/-- Is the set taken that holds all but what is given? -/
def takesNegation (options : PatternOptions) : Bool := options.unicode

/-- Is a letter taken that stands for digits, blanks or parts of words, or for all but these? -/
def takesShorthand (options : PatternOptions) (negated : Bool) : Bool :=
  !options.unicode && !negated

/-- Is the dot taken that stands for anything? -/
def takesDot (options : PatternOptions) : Bool := options.unicode

/-- Is a place taken where a word starts or ends? -/
def takesWordEdge (options : PatternOptions) : Bool := !options.unicode

end PatternOptions

end LaunchStub
