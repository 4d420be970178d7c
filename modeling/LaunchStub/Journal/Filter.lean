import LaunchStub.Bytes
import LaunchStub.Journal

/-!
# What the journal keeps

A filter is a list of rules. A rule speaks of the sources whose names start as it says, and there
of all events or of those that carry a certain detail; what it lets through is every event at least
as serious as it says.

## The model

Of the rules that speak of an event the narrowest decides (`LogRule.isWithin`): the one that names
more of the source, then one that asks for a detail. Of two rules for the same events the later
counts. What no rule speaks of is not kept.

## Honest scope

A rule may also ask that an event lie in a span of work, or compare a detail of a span with a
value. The stub marks no spans, so such a rule speaks of nothing, but it can be written down.

What a filter means is not of the stub's own making: it hands the text of a setting to the library
that keeps its journal, and what is said here, in `Journal.Wording` and in `Journal.Pattern` is how
that library has its filters written. Only `Machine.runProgram` asks for it, to tell which lines
stand in the journal's file, and no statement about the stub depends on it.
-/

namespace LaunchStub

/-- Which events a rule speaks of, among those of its source. -/
inductive LogScope where
  /-- All of them. -/
  | every
  /-- Those that carry a detail of this name. -/
  | carrying (detail : Bytes)
  /-- Those inside certain spans of work. -/
  | insideSpan
  deriving DecidableEq, Repr

namespace LogScope

/-- Is the event in the scope? -/
def includes (scope : LogScope) (event : LogEvent) : Bool :=
  match scope with
  | .every => true
  | .carrying detail => event.details.any fun name => Bytes.ofText name = detail
  | .insideSpan => false

/-- The detail that a scope asks for, empty if it asks for none. -/
def detail : LogScope → Bytes
  | .every | .insideSpan => []
  | .carrying detail => detail

end LogScope

/-- One rule of a filter. -/
structure LogRule where
  /-- The start of the names of the sources that it speaks of. -/
  source : Bytes
  /-- The events of these sources that it speaks of. -/
  scope : LogScope
  /-- How much it lets through: nothing at zero, everything at five. -/
  verbosity : Nat
  deriving DecidableEq, Repr

namespace LogRule

/-- Does the rule speak of the event? -/
def speaksOf (rule : LogRule) (event : LogEvent) : Bool :=
  rule.source.isPrefixOf (Bytes.ofText event.source) && rule.scope.includes event

/-- Is the rule at least as narrow as another one that speaks of the same event? It names more of
the source; or as much of it, and the detail that it asks for does not come before the other's in
dictionary order, no detail being first. -/
def isWithin (rule other : LogRule) : Bool :=
  other.source.length < rule.source.length
    || other.source.length = rule.source.length && Bytes.le other.scope.detail rule.scope.detail

end LogRule

/-- What the journal keeps. -/
structure LogFilter where
  /-- The rules, in the order given. -/
  rules : List LogRule
  deriving DecidableEq, Repr

namespace LogFilter

/-- What the journal keeps where nobody says: all that is at least `info`. -/
def standard : LogFilter := ⟨[⟨[], .every, Severity.info.verbosity⟩]⟩

/-- Of two rules the narrower, the later one if they are equally narrow. -/
def narrower (best : Option LogRule) (rule : LogRule) : Option LogRule :=
  match best with
  | none => some rule
  | some other => if rule.isWithin other then some rule else some other

/-- The rule that decides about an event. -/
def deciding? (filter : LogFilter) (event : LogEvent) : Option LogRule :=
  (filter.rules.filter (·.speaksOf event)).foldl narrower none

/-- Is the event kept? -/
def keeps (filter : LogFilter) (event : LogEvent) : Bool :=
  match filter.deciding? event with
  | none => false
  | some rule => event.severity.verbosity ≤ rule.verbosity

end LogFilter

end LaunchStub
