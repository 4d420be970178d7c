import LaunchStub.Termination

/-!
# Wait statuses

When a child ends, its parent gets a 32-bit word. The low seven bits tell the kind of end: zero for
an exit, whose code is the second octet; all ones for a child that has not ended at all; anything
else is the signal that ended the child. Bit seven, which tells of a core dump, plays no part.
-/

namespace LaunchStub

/-- The word that a parent gets when its child ends. -/
structure WaitStatus where
  /-- The bits as delivered. -/
  word : UInt32
  deriving DecidableEq, Repr

namespace WaitStatus

/-- The bits that tell the kind of end. -/
def kind (s : WaitStatus) : UInt32 := s.word &&& 0x7f

/-- The exit code, if the child exited. -/
def exitCode? (s : WaitStatus) : Option UInt8 :=
  if s.kind = 0 then some ((s.word >>> 8) &&& 0xff).toUInt8 else none

/-- The signal that ended the child, if one did. -/
def signal? (s : WaitStatus) : Option Nat :=
  if s.kind ≠ 0 ∧ s.kind ≠ 0x7f then some s.kind.toNat else none

/-- The status of a child that exited with this code. -/
def ofExit (code : UInt8) : WaitStatus := ⟨code.toUInt32 <<< 8⟩

/-- The status of a child that this signal ended. -/
def ofSignal (signal : UInt8) : WaitStatus := ⟨(signal &&& 0x7f).toUInt32⟩

/-- What a direct wait observes: the exit code or the signal, and for a status that is neither the
whole word as a signed number. -/
def termination (s : WaitStatus) : RawTermination :=
  match s.exitCode?, s.signal? with
  | some code, _ => .exited code.toNat
  | none, some signal => .signaled signal
  | none, none => .exited s.word.toInt32.toInt

/-- The result that a session passes on: the exit code, or 128 and the signal, or zero for a status
that is neither. -/
def sessionResult (s : WaitStatus) : UInt16 :=
  match s.exitCode?, s.signal? with
  | some code, _ => code.toUInt16
  | none, some signal => UInt16.ofNat (128 + signal)
  | none, none => 0

end WaitStatus

end LaunchStub
