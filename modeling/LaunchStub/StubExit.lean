/-!
# How the stub itself ends

The target's exit code goes to the controller. The stub's own exit code tells only whether the stub
did its part.
-/

namespace LaunchStub

/-- How one run of the stub ended. -/
inductive StubExit where
  /-- The controller was told how the target ended. -/
  | completed
  /-- The arguments were wrong, the controller could not be reached, or the working directory could
  not be entered. -/
  | invocation
  /-- The target could not be run to its end, or the controller could not be told. -/
  | internal
  deriving DecidableEq, Repr

/-- The exit code of the stub. -/
def StubExit.code : StubExit → UInt8
  | .completed => 0
  | .invocation => 1
  | .internal => 3

end LaunchStub
