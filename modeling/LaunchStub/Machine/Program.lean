import LaunchStub.CommandLine
import LaunchStub.Journal.Wording
import LaunchStub.Machine
import LaunchStub.Machine.Socket

/-!
# The stub on a machine

The whole program, run on a machine of files, programs and queues, with the controller's socket in
the file system; and the supervisor alone over the same connection.
-/

namespace LaunchStub

/-- The stream that a program's input comes from. -/
inductive StandardInput where
  /-- Bytes, and then the end. -/
  | bytes (bytes : Bytes)
  /-- A directory, which cannot be read. -/
  | directory
  deriving DecidableEq, Repr

/-- The stream that a program's output goes to. -/
inductive StandardOutput where
  /-- All bytes are taken. -/
  | open_ (written : Bytes)
  /-- A device without room. -/
  | full
  deriving DecidableEq, Repr

namespace StandardInput

/-- Reads a line. -/
def readLine : StandardInput → Except IoError Bytes × StandardInput
  | .directory => (.error (.os Errno.isDirectory), .directory)
  | .bytes data =>
    let start := data.takeWhile (· ≠ Bytes.newline)
    match data.dropWhile (· ≠ Bytes.newline) with
    | [] => (.ok start, .bytes [])
    | newline :: rest => (.ok (start ++ [newline]), .bytes rest)

/-- The standard input as a device. -/
def device : Reader StandardInput := ⟨readLine⟩

end StandardInput

namespace StandardOutput

/-- Writes bytes. -/
def write (bytes : Bytes) : StandardOutput → Except IoError Unit × StandardOutput
  | .open_ written => (.ok (), .open_ (written ++ bytes))
  | .full => (.error (.os Errno.noSpace), .full)

/-- The standard output as a device. Nothing is held back. -/
def device : Writer StandardOutput := ⟨write, fun out => (.ok (), out)⟩

/-- What was written. -/
def written : StandardOutput → Bytes
  | .open_ written => written
  | .full => []

end StandardOutput

namespace Machine

/-- A machine on which the stub has just been started, with these variables; of a name given twice
the last value counts. The variables say where the queues stand. -/
def boot (files : FileSystem) (given : Environment) (conduct : Conduct) (stub child : UInt32) :
    Machine :=
  let env := (Command.table given).handOver
  { store := ⟨files, []⟩
    env := ⟨env, none⟩
    stub := stub
    child := child
    conduct := conduct
    queueDir := Settings.queueDir env }

/-- Connects to the controller's socket. -/
def connect (path : Bytes) (m : Machine) : Reply Machine (Except ChannelError Connection) :=
  match Connection.open_ m.files path with
  | .ok connection => ⟨.ok connection, m, [.controllerConnected]⟩
  | .error e => ⟨.error e, m, []⟩

/-- Sets the journal up. -/
def openLog (path : Bytes) (m : Machine) : Option LogError × Machine :=
  let (e, files) := m.files.setUpLog path false
  (e, m.withFiles files)

/-- A machine as a program finds it. -/
def surroundings :
    Surroundings Machine MachineChild Connection Bytes StandardOutput StandardInput where
  host := host
  connect := connect
  channel := Connection.device
  openLog := openLog
  stderr := Writer.keeping
  stdout := StandardOutput.device
  stdin := StandardInput.device

/-- What can be seen of the stub from outside. -/
structure Report where
  /-- How the stub ended. -/
  exit : StubExit
  /-- What the controller received, if anybody connected. -/
  received : Option Bytes
  /-- What was written on the stream for errors. -/
  stderr : Bytes
  /-- What was written on the stream for output, by the target and by the stub. -/
  stdout : Bytes
  /-- The lines of the journal. -/
  journal : List String
  /-- The machine afterwards. -/
  machine : Machine

/-- What a connection received, if there was one. -/
def received : Link Connection → Option Bytes
  | .absent => none
  | .closed connection => some connection.received

/-- Runs the whole program on a machine. What its programs print goes where the stub's output
goes. -/
def runProgram (m : Machine) (arguments : List Bytes) (stdin : StandardInput)
    (stdout : StandardOutput) : Report :=
  let filter := LogFilter.ofVariable (m.env.vars.get? Settings.logFilterVariable)
  let (how, w) := CommandLine.main surroundings arguments ⟨m, .absent, [], stdout, stdin, false, []⟩
  { exit := how
    received := received w.link
    stderr := w.stderr
    stdout := (match w.stdout with
      | .open_ _ => w.host.printed
      | .full => []) ++ w.stdout.written
    journal := if w.logging then (w.trace.journal.filter filter.keeps).map LogEvent.text else []
    machine := w.host }

/-- Runs the supervisor alone on a machine, over a connection that the controller may have closed
at once. Nothing is run if the controller cannot be reached. -/
def runSupervisor (m : Machine) (inv : Invocation) (hungUp : Bool) : Except ChannelError Report :=
  match Connection.open_ m.files inv.channel with
  | .error e => .error e
  | .ok connection =>
    let devices : Supervisor Machine MachineChild Connection Bytes :=
      ⟨host, Connection.device, Writer.keeping⟩
    let (how, desk) := devices.run inv ⟨m, { connection with hungUp := hungUp }, [], []⟩
    .ok
      { exit := how
        received := some desk.channel.received
        stderr := desk.stderr
        stdout := desk.host.printed
        journal := desk.trace.journal.map LogEvent.text
        machine := desk.host }

end Machine

end LaunchStub
