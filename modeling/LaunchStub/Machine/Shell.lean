import LaunchStub.Machine.Start
import LaunchStub.WaitStatus

/-!
# The shell

A file that is found where programs are looked for, and that the machine cannot run itself, is
taken for a list of commands, and the shell runs them line by line.

## Honest scope

There are no commands for the shell to find, so what matters of a file is only whether it asks for
any. What the shell says of a command that it does not find is not kept.
-/

namespace LaunchStub

namespace Shell

/-- The exit code of a shell that did not find its last command. -/
def notFound : UInt8 := 127

/-- The mark in front of a remark. -/
def remarkMark : UInt8 := 0x23

/-- Does a line ask for a command? Bytes of value zero are passed over as blanks are. -/
def isCommand (line : Bytes) : Bool :=
  match line.dropWhile fun b => b = Bytes.nul || FileSystem.isBlank b with
  | [] => false
  | b :: _ => b ≠ remarkMark

/-- The status that the shell ends with. -/
def status (commands : Bytes) : WaitStatus :=
  .ofExit (if (Bytes.splitAt Bytes.newline commands).any isCommand then notFound else 0)

end Shell

end LaunchStub
