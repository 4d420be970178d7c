import LaunchStub.Host
import LaunchStub.LoaderPath
import LaunchStub.Machine.Shell
import LaunchStub.Notification.Queue

/-!
# A machine

A host made of parts: a file system, variables, programs that start and end, and notification
queues. The supervisor runs on it as it does on a real one.

## The model

`Machine` holds what later answers depend on. A direct launch starts the program and remembers its
status. A session creates the queue first, then starts the program; when its end is awaited, the
session posts the element that the stub then reads, and the queue goes. If the program cannot be
started, the poster and the queue go at once.

The machine runs one program at a time, the same one behind every native image: it prints something
and ends with a status. With what arguments, variables and directory it was started is remembered.
The shell is another program: it prints nothing, and what it runs is not remembered.
-/

namespace LaunchStub

/-- What the program behind a native image does. -/
structure Conduct where
  /-- What it prints. -/
  output : Bytes := []
  /-- The status it ends with. -/
  status : WaitStatus
  deriving DecidableEq, Repr

/-- How the program behind a native image was started. -/
structure ProgramStart where
  /-- The file that was asked for. -/
  file : Place
  /-- Its arguments, without its own name. -/
  arguments : List Bytes
  /-- The directory it runs in. -/
  directory : Place
  /-- Its variables. -/
  env : Environment
  /-- Does it lead a process group of its own? -/
  leadsGroup : Bool
  /-- Is its standard input the null device? -/
  stdinNull : Bool
  /-- Is its standard output the null device? -/
  stdoutNull : Bool
  deriving DecidableEq, Repr

/-- A machine. -/
structure Machine where
  /-- The files and the queues. -/
  store : QueueStore
  /-- The stub's variables. -/
  env : SteeredEnvironment
  /-- The stub's process id. -/
  stub : UInt32
  /-- The process id of the next child. -/
  child : UInt32
  /-- What the program behind every native image does. -/
  conduct : Conduct
  /-- The directory for the notification queues. -/
  queueDir : Bytes
  /-- How the program behind the native images was started, in order. -/
  started : List ProgramStart := []
  /-- What it has printed. -/
  printed : Bytes := []

/-- A child of the stub: where its end is learned. -/
inductive MachineChild where
  /-- The stub awaits the child itself, which ends with this status. -/
  | direct (id : UInt32) (status : WaitStatus)
  /-- A session awaits the child and posts its status to the queue of this path. -/
  | session (id : UInt32) (status : WaitStatus) (queue : Bytes)
  deriving DecidableEq, Repr

namespace Machine

/-- The files, with the current directory. -/
def files (m : Machine) : FileSystem := m.store.files

/-- Changes the files. -/
def withFiles (m : Machine) (files : FileSystem) : Machine :=
  { m with store := { m.store with files := files } }

/-- A machine on which the program behind a native image was started. -/
def noteStart (m : Machine) (command : Command) (started : Started) : Machine :=
  { m with
    started := m.started ++ [⟨started.file, started.arguments, m.files.current,
      command.env.handOver, command.leadsGroup, command.stdinNull, command.stdoutNull⟩]
    printed := m.printed ++ if command.stdoutNull then [] else m.conduct.output }

/-- Starts the program of a command; gives the status that it will end with. -/
def startProgram (m : Machine) (command : Command) : Except IoError (WaitStatus × Machine) :=
  match m.files.startCommand command with
  | .error e => .error e
  | .ok started => .ok <| match started.runner with
    | .image => (m.conduct.status, m.noteStart command started)
    | .shell commands => (Shell.status commands, m)

/-- Enters a directory. -/
def changeDir (dir : Bytes) (m : Machine) : Reply Machine (Except IoError Unit) :=
  match m.files.enter dir with
  | .ok files => ⟨.ok (), m.withFiles files, []⟩
  | .error e => ⟨.error e, m, []⟩

/-- Tells what kind of program a file is, by its first bytes. -/
def queryType (target : Bytes) (m : Machine) : Reply Machine (Except IoError AppType) :=
  ⟨match m.files.readStart target AppType.headerLength with
    | .ok header => AppType.classify header
    | .error e => .error e, m, []⟩

/-- Applies a directive to the variables. -/
def extendPath (directive : Directive) (value : Bytes) (m : Machine) :
    Reply Machine (Except IoError Unit) :=
  let (answer, env) := m.env.extend directive value
  ⟨answer, { m with env := env }, []⟩

/-- Starts an ordinary child. -/
def launchDirect (request : LaunchRequest) (m : Machine) :
    Reply Machine (Except LaunchError MachineChild) :=
  match m.startProgram (Command.direct request) with
  | .ok (status, m) => ⟨.ok (.direct m.child status), m, []⟩
  | .error e => ⟨.error (.start e), m, []⟩

/-- Drops a queue. If its name is no longer there, that is noted. -/
def dropQueue (path : Bytes) (m : Machine) : Reply Machine Unit :=
  let removed := (m.store.unlink path).1
  ⟨(), { m with store := m.store.dropQueue path }, if removed then [] else [.queueNotRemoved]⟩

/-- Starts a child in a session: the queue first, then the program. -/
def launchSession (request : LaunchRequest) (m : Machine) :
    Reply Machine (Except LaunchError MachineChild) :=
  match m.store.create m.queueDir m.stub with
  | (.error e, _) => ⟨.error (.queueCreate (QueueStore.nameFor m.queueDir m.stub) e), m, []⟩
  | (.ok path, store) =>
    let m := { m with store := store }
    match m.startProgram (SessionStart.onConsole request).command with
    | .ok (status, m) => ⟨.ok (.session m.child status path), m, [.queueCreated]⟩
    | .error e =>
      let dropped := dropQueue path { m with store := m.store.dropPoster path }
      ⟨.error (.start e), dropped.state, .queueCreated :: dropped.events⟩

/-- Awaits the end of a child. The session has by then posted the element that the queue gives. -/
def wait (child : MachineChild) (m : Machine) :
    Reply Machine (Except IoError RawTermination) :=
  match child with
  | .direct _ status => ⟨.ok status.termination, m, [.childEnded]⟩
  | .session id status path =>
    let (_, store) := m.store.post path (Element.pack status.sessionResult id)
    let (found, store) := store.read path
    let dropped := dropQueue path { m with store := store }
    let answer : Except IoError RawTermination := match found with
      | .element element => .ok (.exited (Element.result element).toNat)
      | .failed e => .error e
      | .waits | .noQueue => .error .shortRead
    ⟨answer, dropped.state, dropped.events⟩

/-- Lets go of a child. The queue of a session goes; its poster finds nobody to read. -/
def release (child : MachineChild) (m : Machine) : Reply Machine Unit :=
  match child with
  | .direct _ _ => ⟨(), m, []⟩
  | .session _ _ path =>
    let dropped := dropQueue path m
    ⟨(), { dropped.state with store := dropped.state.store.dropPoster path }, dropped.events⟩

/-- The process id of a child. -/
def childId : MachineChild → UInt32
  | .direct id _ | .session id _ _ => id

/-- The machine as a host. -/
def host : Host Machine MachineChild where
  changeDir := changeDir
  queryType := queryType
  environment m := ⟨m.env.vars, m, []⟩
  extendPath := extendPath
  launch
    | .direct => launchDirect
    | .session => launchSession
  childId := childId
  wait := wait
  release := release

end Machine

end LaunchStub
