import LaunchStub.IoError
import LaunchStub.Termination
import LaunchStub.Bytes

/-!
# Messages to the controller

The controller is told what happens in short lines, one message a line:

    pid <number>
    exit <number>
    crash <number>
    err:<phase> <number>

No message holds a line feed, so the line feed that ends each line also ends the message.
-/

namespace LaunchStub

/-- The step of the set-up that failed. -/
inductive Phase where
  /-- Entering the working directory. -/
  | chdir
  /-- Starting the target. -/
  | exec
  deriving DecidableEq, Repr

/-- The word for a phase. -/
def Phase.name : Phase → String
  | .chdir => "chdir"
  | .exec => "exec"

/-- One message to the controller. -/
inductive Message where
  /-- The target runs under this process id. -/
  | pid (id : UInt32)
  /-- The target exited with this code. -/
  | exit (code : Int)
  /-- The target crashed. -/
  | crash (cause : CrashCause)
  /-- The set-up failed in this phase, with this error number. -/
  | failure (phase : Phase) (code : Int)
  deriving DecidableEq, Repr

namespace Message

/-- The message as text, without the end of the line. -/
def text : Message → String
  | .pid id => "pid " ++ Decimal.nat id.toNat
  | .exit code => "exit " ++ Decimal.int code
  | .crash cause => "crash " ++ Decimal.nat cause.code
  | .failure phase code => "err:" ++ phase.name ++ " " ++ Decimal.int code

/-- The bytes that are sent for a message: its text and a line feed. -/
def line (m : Message) : Bytes := Bytes.ofText m.text ++ [Bytes.newline]

/-- The message that tells of an outcome. -/
def ofOutcome : Outcome → Message
  | .exited code => .exit code
  | .crashed cause => .crash cause

end Message

end LaunchStub
