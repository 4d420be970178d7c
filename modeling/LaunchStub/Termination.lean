/-!
# How a target ended

The operating system tells how a process ended in its own terms; the controller is told one of
three things: an exit code, a crash by a fault of the program, or a crash by force.

## The model

`RawTermination` is what was observed, a cause and a code. `classify` forgets what the controller
does not need. Traps and aborts count as faults of the program; hard errors and all other signals
count as force.
-/

namespace LaunchStub

/-- How the operating system says that the target ended. -/
inductive TerminationCause where
  /-- It exited with a code. -/
  | exit
  /-- A hard input or output error ended it. -/
  | hardError
  /-- The processor stopped it: a bad memory access, an illegal instruction and the like. -/
  | trap
  /-- It was killed. -/
  | kill
  /-- It ended itself with an unhandled exception. -/
  | exception
  deriving DecidableEq, Repr

namespace TerminationCause

/-- The signals that the processor's traps arrive as. -/
def trapSignals : List Int := [4, 5, 7, 8, 11, 31]

/-- The signal by which a program aborts. -/
def abortSignal : Int := 6

/-- The cause that a signal means. -/
def ofSignal (signal : Int) : TerminationCause :=
  if signal ∈ trapSignals then .trap
  else if signal = abortSignal then .exception
  else .kill

end TerminationCause

/-- The cause and code of a termination, as observed. -/
structure RawTermination where
  /-- What ended the target. -/
  cause : TerminationCause
  /-- The exit code, or the number that goes with the cause. -/
  code : Int
  deriving DecidableEq, Repr

namespace RawTermination

/-- A regular exit. -/
def exited (code : Int) : RawTermination := ⟨.exit, code⟩

/-- An end by a signal. -/
def signaled (signal : Int) : RawTermination := ⟨.ofSignal signal, signal⟩

end RawTermination

/-- The two kinds of crash that the controller distinguishes. -/
inductive CrashCause where
  /-- The program did something it must not. -/
  | fault
  /-- The program was stopped from outside. -/
  | killed
  deriving DecidableEq, Repr

/-- The number that stands for a kind of crash: that of its most common signal. -/
def CrashCause.code : CrashCause → Nat
  | .fault => 11
  | .killed => 9

/-- What the controller is told about the end of the target. -/
inductive Outcome where
  /-- The target exited with a code. -/
  | exited (code : Int)
  /-- The target crashed. -/
  | crashed (cause : CrashCause)
  deriving DecidableEq, Repr

/-- What the controller is told about an observed termination. -/
def RawTermination.classify (raw : RawTermination) : Outcome :=
  match raw.cause with
  | .trap | .exception => .crashed .fault
  | .hardError | .kill => .crashed .killed
  | .exit => .exited raw.code

end LaunchStub
