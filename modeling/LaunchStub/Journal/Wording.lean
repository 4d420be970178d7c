import LaunchStub.Journal.Filter
import LaunchStub.Journal.Pattern
import LaunchStub.Text.Alphanumeric
import LaunchStub.Text.Blank
import LaunchStub.Text.Utf8

/-!
# How a filter is worded

A filter is written as rules between commas. A rule may name how much it lets through, `debug`; a
source, `stub`; or both, `stub=debug`. In brackets behind the source, or in its place, it may name
a span, a detail in braces, or both: `stub[launch]`, `[{pid}]=warn`, `stub[launch{pid}]=debug`. A
detail may be given with a value, `{pid=12}`, which makes the rule one about spans.

## The model

`LogFilter.parse?` reads a filter, and `RuleText.rule?` one rule. Blanks around a rule are passed
over in the search for its marks, but they stay where they are: what is found at a mark is cut out
of the rule as it is given. So a rule with a blank behind it names a source that ends in that
blank, and in one with a blank in front all names are shifted.

A filter that cannot be read, or is not given, keeps what is at least `info`.

## Honest scope

The wording is that of the library that keeps the journal, as `Journal.Filter` says of the rules.
-/

namespace LaunchStub

/-- The mark between rules. -/
def Bytes.comma : UInt8 := 0x2c

/-- The mark in front of a span. -/
def Bytes.openBracket : UInt8 := 0x5b

/-- The mark behind a span and its detail. -/
def Bytes.closeBracket : UInt8 := 0x5d

/-- The mark in front of a detail. -/
def Bytes.openBrace : UInt8 := 0x7b

/-- The mark behind a detail. -/
def Bytes.closeBrace : UInt8 := 0x7d

namespace Severity

/-- Everything is let through. -/
def fullVerbosity : Nat := trace.verbosity

/-- The words for how much is let through, in small letters. -/
def verbosityNames : List (String × Nat) :=
  ("off", 0) :: [error, warn, info, debug, trace].map fun severity =>
    (severity.name.map Char.toLower, severity.verbosity)

/-- The number that digits spell, with a plus sign in front or without. -/
def number? (word : List Char) : Option Nat :=
  let digits := if word.head? = some '+' then word.tail else word
  if digits ≠ [] ∧ digits.all Char.isDigit then some (Nat.ofDigitChars 10 digits 0) else none

/-- How much a word lets through: a severity's name in any case, or a number up to five. -/
def verbosity? (word : Bytes) : Option Nat :=
  match Utf8.text? word with
  | none => none
  | some word => match number? word.toList with
    | some n => if n ≤ fullVerbosity then some n else none
    | none => verbosityNames.lookup (word.map Char.toLower)

end Severity

namespace LogScope

/-- Is the text empty, or an exponent: the letter e, a sign or none, and digits? -/
def isExponent : List Char → Bool
  | [] => true
  | c :: rest =>
    let digits := if rest.head? = some '+' ∨ rest.head? = some '-' then rest.tail else rest
    c.toLower = 'e' && digits ≠ [] && digits.all Char.isDigit

/-- Is the text a number without a sign: digits with a point or without, and an exponent or none;
or a word for an unbounded number or for none? -/
def isUnsigned (text : List Char) : Bool :=
  let rest := text.dropWhile Char.isDigit
  let fraction := if rest.head? = some '.' then rest.tail else []
  let hasDigits := (text.head?.any Char.isDigit) || fraction.head?.any Char.isDigit
  ["inf", "infinity", "nan"].contains (String.ofList (text.map Char.toLower))
    || hasDigits && isExponent
      (if rest.head? = some '.' then fraction.dropWhile Char.isDigit else rest)

/-- Can a detail be compared with the text? It is a pattern, or a number with a plus sign. Other
numbers, and the words for truth, are patterns anyway. -/
def isValue (text : List Char) : Bool :=
  isPattern text || text.head? = some '+' && isUnsigned text.tail

/-- Reads a detail as it stands in braces: a name, or a name and a value. Of several values the
first counts. -/
def ofDetail? (wording : Bytes) : Option LogScope :=
  match wording.dropWhile (· ≠ Bytes.equals) with
  | [] => if wording = [] then none else some (.carrying wording)
  | _ :: rest => match Utf8.text? (rest.takeWhile (· ≠ Bytes.equals)) with
    | none => none
    | some value => if isValue value.toList then some .insideSpan else none

end LogScope

/-- What a rule is read from. -/
structure RuleText where
  /-- The rule as it is given. -/
  given : Bytes
  /-- The rule without blanks around it, in which its marks are looked for. -/
  marked : Bytes
  deriving DecidableEq, Repr

namespace RuleText

/-- The position of the first of these marks, from a position on. -/
def next? (t : RuleText) (marks : List UInt8) (start : Nat) : Option Nat :=
  ((t.marked.drop start).findIdx? marks.contains).map (start + ·)

/-- What is given between two positions. -/
def cut (t : RuleText) (start stop : Nat) : Bytes := (t.given.take stop).drop start

/-- What is given from a position on. -/
def rest (t : RuleText) (start : Nat) : Bytes := t.given.drop start

/-- Reads how much is let through, from a position on. What is not said is everything. -/
def verbosity? (t : RuleText) (start : Nat) : Option Nat :=
  if t.rest start = [] then some Severity.fullVerbosity else Severity.verbosity? (t.rest start)

/-- Reads a rule behind its brackets. -/
def afterBrackets? (t : RuleText) (source : Bytes) (scope : LogScope) (start : Nat) :
    Option LogRule :=
  match t.marked[start]? with
  | none => some ⟨source, scope, Severity.fullVerbosity⟩
  | some mark =>
    if mark = Bytes.equals then (t.verbosity? (start + 1)).map (⟨source, scope, ·⟩) else none

/-- Reads a rule inside its braces. -/
def inBraces? (t : RuleText) (source : Bytes) (inSpan : Bool) (start : Nat) : Option LogRule :=
  match t.next? [Bytes.closeBrace] start with
  | none => none
  | some stop => match LogScope.ofDetail? (t.cut start stop) with
    | none => none
    | some scope =>
      if t.marked[stop + 1]? = some Bytes.closeBracket then
        t.afterBrackets? source (if inSpan then .insideSpan else scope) (stop + 2)
      else none

/-- Reads a rule inside its brackets. Empty brackets name a span, which has no name. -/
def inBrackets? (t : RuleText) (source : Bytes) (start : Nat) : Option LogRule :=
  match t.next? [Bytes.closeBracket, Bytes.openBrace] start with
  | none => none
  | some stop =>
    if t.marked[stop]? = some Bytes.closeBracket then
      t.afterBrackets? source .insideSpan (stop + 1)
    else t.inBraces? source (start < stop) (stop + 1)

/-- Reads a rule that starts with a word: how much is let through, or else a source. -/
def fromWord? (t : RuleText) : Option LogRule :=
  match t.next? [Bytes.equals, Bytes.openBracket] 0 with
  | none => match Severity.verbosity? t.given with
    | some verbosity => some ⟨[], .every, verbosity⟩
    | none => some ⟨t.given, .every, Severity.fullVerbosity⟩
  | some stop =>
    if t.marked[stop]? = some Bytes.equals then
      (t.verbosity? (stop + 1)).map (⟨t.cut 0 stop, .every, ·⟩)
    else t.inBrackets? (t.cut 0 stop) (stop + 1)

/-- May a word at the start of a rule begin with this character? -/
def startsWord (c : Char) : Bool := Text.isAlphanumeric c || c = '-' || c = ':' || c = '_'

/-- Reads a rule. -/
def rule? (given : Bytes) : Option LogRule :=
  match (Utf8.text? given).map fun text => Text.trimmed text.toList with
  | none | some [] => none
  | some (c :: text) =>
    let t : RuleText := ⟨given, Bytes.ofText (String.ofList (c :: text))⟩
    if c = '[' then t.inBrackets? [] 1
    else if startsWord c then t.fromWord?
    else none

end RuleText

namespace LogFilter

/-- Reads a filter; nothing if a rule cannot be read. A filter without rules keeps nothing. -/
def parse? (wording : Bytes) : Option LogFilter :=
  (((Bytes.splitAt Bytes.comma wording).filter (· ≠ [])).mapM RuleText.rule?).map LogFilter.mk

/-- The filter that a variable's value asks for. -/
def ofVariable (value : Option Bytes) : LogFilter := (value.bind parse?).getD standard

end LogFilter

end LaunchStub
