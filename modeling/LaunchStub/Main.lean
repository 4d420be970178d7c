import LaunchStub.CommandLine

/-!
# The command

The outer layer: the stub's streams, arguments and variables. This system offers neither sockets
nor child processes, so the controller cannot be reached from here; what the program does then is
what it does for any controller that is out of reach.
-/

namespace LaunchStub

/-- The exit code, after the lines that the program leaves on the stream for errors. -/
def finish (how : StubExit) (lines : Bytes) : IO UInt32 := do
  let stderr ← IO.getStderr
  stderr.write ⟨lines.toArray⟩
  return how.code.toUInt32

/-- The surroundings of a program that can reach no controller. -/
def outOfReach : Surroundings Environment Empty Empty Bytes Bytes (List Bytes) where
  host :=
    { changeDir := fun _ env => ⟨.error (.bare .unsupported), env, []⟩
      queryType := fun _ env => ⟨.error (.bare .unsupported), env, []⟩
      environment := fun env => ⟨env, env, []⟩
      extendPath := fun _ _ env => ⟨.error (.bare .unsupported), env, []⟩
      launch := fun _ _ env => ⟨.error (.start (.bare .unsupported)), env, []⟩
      childId := fun child => nomatch child
      wait := fun child => nomatch child
      release := fun child => nomatch child }
  connect path env := ⟨.error (.connect path (.bare .unsupported)), env, []⟩
  channel := ⟨fun _ channel => nomatch channel⟩
  openLog _ env := (some (.io (.bare .unsupported)), env)
  stderr := Writer.keeping
  stdout := Writer.keeping
  stdin := ⟨fun lines => (.ok (lines.headD []), lines.tail)⟩

end LaunchStub

open LaunchStub in
/-- Runs the program on the arguments of the process. The program is first run without input, which
settles all but the pause; the pause then waits for a line. -/
def main (arguments : List String) : IO UInt32 := do
  let file ← IO.getEnv "PSTUB_LOG_FILE"
  let env : Environment := (file.map fun value =>
    (Settings.logFileVariable, Bytes.ofText value)).toList
  let vector := Bytes.ofText "pstub" :: arguments.map Bytes.ofText
  let (how, w) := CommandLine.main outOfReach vector
    ⟨env, .absent, [], [], [], false, []⟩
  let code ← finish how w.stderr
  let stdout ← IO.getStdout
  stdout.write ⟨w.stdout.toArray⟩
  stdout.flush
  match Invocation.parse vector with
  | .ok _ => discard (← IO.getStdin).getLine
  | .error _ => pure ()
  return code
