import LaunchStub.IoError
import LaunchStub.Bytes

/-!
# Kinds of programs

How a target is started and awaited depends on what it is, and that is read off its first bytes: a
script names its interpreter after the mark `#!`, and a native image has a header that tells which
machine it is for.

## The model

`AppType.classify` looks at no more than `AppType.headerLength` bytes of its argument, so reading
that many is reading enough.
-/

namespace LaunchStub

/-- How a target is started and awaited. -/
inductive Strategy where
  /-- As a child that the stub awaits itself. -/
  | direct
  /-- In a session that announces the end through a notification queue. -/
  | session
  deriving DecidableEq, Repr

/-- What kind of program a target is. -/
inductive AppType where
  /-- A native image for this machine. -/
  | console
  /-- A script for an interpreter. -/
  | script
  /-- A native image for another machine. -/
  | foreign
  deriving DecidableEq, Repr

namespace AppType

/-- The strategy for a kind of program: only a native image for this machine is awaited directly.
-/
def strategy : AppType → Strategy
  | .console => .direct
  | .script | .foreign => .session

/-- The bytes that a script starts with. -/
def scriptMark : Bytes := [0x23, 0x21]

/-- The bytes that a native image starts with. -/
def imageMark : Bytes := [0x7f, 0x45, 0x4c, 0x46]

/-- How many bytes tell the kind: up to the end of the machine number. -/
def headerLength : Nat := 20

/-- The number of this machine. -/
def hostMachine : Nat := 62

/-- The machine number in a header: two bytes, the more significant first exactly if the byte at
place five is two. -/
def machine (header : Bytes) : Nat :=
  let a := (header.getD 18 0).toNat
  let b := (header.getD 19 0).toNat
  if header.getD 5 0 = 2 then a * 256 + b else b * 256 + a

/-- The kind of program that starts with these bytes. -/
def classify (header : Bytes) : Except IoError AppType :=
  if scriptMark.isPrefixOf header then .ok .script
  else if imageMark.isPrefixOf header ∧ headerLength ≤ header.length then
    .ok (if machine header = hostMachine then .console else .foreign)
  else .error (.os Errno.badExecutable)

end AppType

end LaunchStub
