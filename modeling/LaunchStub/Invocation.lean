import LaunchStub.Text.Decimal
import LaunchStub.Text.Utf8

/-!
# Invocations

What the controller asks of the stub, given as six positional arguments after the program's name:

    {run|debug} <channel> <continuation-message> <workdir> <exe> <args>

## The model

`Invocation.parse` reads an argument vector and `Invocation.positionals` lists an invocation in the
order it was given, so the two can be held against each other. Of two faults, a wrong number of
arguments and an unknown action, the number is reported. Nothing is interpreted: the five fields
behind the action keep their bytes.
-/

namespace LaunchStub

/-- What the controller wants done with the target. Both actions launch it the same way. -/
inductive Action where
  /-- Run the target. -/
  | run
  /-- Run the target on behalf of a debugger. -/
  | debug
  deriving DecidableEq, Repr

namespace Action

/-- The word that stands for an action. -/
def name : Action → Bytes
  | .run => Bytes.ofText "run"
  | .debug => Bytes.ofText "debug"

/-- The action a word stands for: exactly its bytes, nothing else. -/
def ofName? (word : Bytes) : Option Action :=
  if word = name .run then some .run
  else if word = name .debug then some .debug
  else none

/-- Every action is read back from its word. -/
@[simp] theorem ofName?_name (a : Action) : ofName? a.name = some a := by
  cases a <;> decide

end Action

/-- Why an argument vector is no invocation. -/
inductive UsageError where
  /-- There are not six arguments behind the program's name but this many. -/
  | arity (count : Nat)
  /-- The first of six arguments names no action. -/
  | unknownAction (word : Bytes)
  deriving DecidableEq, Repr

/-- The text shown for a usage error. -/
def UsageError.message : UsageError → String
  | .arity count => "expected 6 arguments, got " ++ Decimal.nat count
  | .unknownAction word => "unknown action: " ++ Utf8.lossy word

/-- One invocation of the stub. -/
structure Invocation where
  /-- What to do. -/
  action : Action
  /-- The address of the controller's socket. -/
  channel : Bytes
  /-- The message shown at the final pause. -/
  continuation : Bytes
  /-- The directory that the target runs in. -/
  workdir : Bytes
  /-- The program to launch. -/
  target : Bytes
  /-- The target's argument, handed over as it is. -/
  targetArgs : Bytes
  deriving DecidableEq, Repr

namespace Invocation

/-- The line that explains the arguments. -/
def usage : String :=
  "usage: pstub \x7brun|debug\x7d <channel> <continuation-message> <workdir> <exe> <args>"

/-- Reads an argument vector, the program's name first. -/
def parse (arguments : List Bytes) : Except UsageError Invocation :=
  match arguments.drop 1 with
  | [action, channel, continuation, workdir, target, targetArgs] =>
    match Action.ofName? action with
    | some action => .ok ⟨action, channel, continuation, workdir, target, targetArgs⟩
    | none => .error (.unknownAction action)
  | other => .error (.arity other.length)

/-- The arguments behind the program's name, as they were given. -/
def positionals (inv : Invocation) : List Bytes :=
  [inv.action.name, inv.channel, inv.continuation, inv.workdir, inv.target, inv.targetArgs]

/-- An invocation is read back from its arguments, whatever the program's name. -/
theorem parse_positionals (inv : Invocation) (program : Bytes) :
    parse (program :: inv.positionals) = .ok inv := by
  simp [parse, positionals]

end Invocation

end LaunchStub
