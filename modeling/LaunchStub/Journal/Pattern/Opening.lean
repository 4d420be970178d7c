import LaunchStub.Journal.Pattern.Options
import LaunchStub.Text.Alphabetic

/-!
# Groups

A group stands in parentheses. Behind the first of them it may have a name, or options that hold
inside it. Options may also stand alone in parentheses: then they hold for what follows.
-/

namespace LaunchStub

/-- What an opening parenthesis opens. -/
inductive GroupOpening where
  /-- A group, which is read with these options. -/
  | group (options : PatternOptions)
  /-- A group with a name. -/
  | named (name : List Char)
  /-- No group: these options hold from here on. -/
  | change (options : PatternOptions)
  deriving DecidableEq, Repr

namespace GroupOpening

/-- Is the word a name for a group? It starts with a letter or an underscore, and numbers, dots and
brackets may follow. -/
def isName : List Char → Bool
  | [] => false
  | c :: rest =>
    (Text.isAlphabetic c || c = '_')
      && rest.all fun c => Text.isAlphanumeric c || "_.[]".toList.contains c

/-- Reads a name up to the mark behind it. -/
def readName? (text : List Char) : Option (GroupOpening × List Char) :=
  let name := text.takeWhile (· ≠ '>')
  match text.dropWhile (· ≠ '>') with
  | [] => none
  | _ :: text => if isName name then some (.named name, text) else none

/-- Does the character end a word that changes options? -/
def endsChange (c : Char) : Bool := c = ':' || c = ')'

/-- Reads a word that changes options. It may be empty only in front of a group. -/
def readChange? (options : PatternOptions) (text : List Char) :
    Option (GroupOpening × List Char) :=
  let word := text.takeWhile (!endsChange ·)
  if !PatternOptions.isChange word then none
  else match text.dropWhile (!endsChange ·) with
    | [] => none
    | mark :: text =>
      if mark = ':' then some (.group (options.change word), text)
      else if word = [] then none
      else some (.change (options.change word), text)

/-- Reads what stands behind an opening parenthesis. -/
def read? (options : PatternOptions) (text : List Char) : Option (GroupOpening × List Char) :=
  match options.skip text with
  | '?' :: '<' :: text | '?' :: 'P' :: '<' :: text => readName? text
  | '?' :: text => readChange? options text
  | text => some (.group options, text)

end GroupOpening

end LaunchStub
