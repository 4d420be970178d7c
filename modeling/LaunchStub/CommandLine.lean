import LaunchStub.Journal.LogFile
import LaunchStub.Pause
import LaunchStub.Settings
import LaunchStub.Supervisor

/-!
# The stub as a program

From the arguments to the exit code: read the invocation, set the journal up, connect to the
controller, supervise the target, close the connection, pause.

## The model

`CommandLine.main` works on any `Surroundings`: a host, a way to connect, and three streams. Wrong
arguments end the program before it touches anything but the stream for errors. Otherwise it pauses
exactly once, whatever came before, and by then the connection is closed; the exit code is settled
before the pause. As in a run of the supervisor, all that happens is in the trace.
-/

namespace LaunchStub

/-- What the program finds when it starts. -/
structure Surroundings (σ κ χ ω ο ι : Type) where
  /-- The operating system. -/
  host : Host σ κ
  /-- Connects to the controller at an address. -/
  connect : Bytes → σ → Reply σ (Except ChannelError χ)
  /-- The way to the controller, once connected. -/
  channel : Channel χ
  /-- Sets the journal up in a file, or says why that does not work. -/
  openLog : Bytes → σ → Option LogError × σ
  /-- The stream for errors. -/
  stderr : Writer ω
  /-- The stream for the final message. -/
  stdout : Writer ο
  /-- The stream that the acknowledgment comes from. -/
  stdin : Reader ι

/-- What has become of the connection to the controller. -/
inductive Link (χ : Type) where
  /-- There is none. -/
  | absent
  /-- There was one, and it is closed. -/
  | closed (channel : χ)

/-- The states of everything around the program, and the trace so far. -/
structure World (σ χ ω ο ι : Type) where
  /-- The operating system. -/
  host : σ
  /-- What has become of the connection. -/
  link : Link χ := .absent
  /-- The stream for errors. -/
  stderr : ω
  /-- The stream for the final message. -/
  stdout : ο
  /-- The stream that the acknowledgment comes from. -/
  stdin : ι
  /-- Is there a journal? -/
  logging : Bool := false
  /-- What has happened. -/
  trace : Trace := []

namespace CommandLine

variable {σ κ χ ω ο ι : Type} (s : Surroundings σ κ χ ω ο ι)

/-- The line that comes before a usage error. -/
def notice : String := "This is an internal helper. Do not run it manually."

/-- Adds something to the trace. -/
def record (deed : Deed) (w : World σ χ ω ο ι) : World σ χ ω ο ι :=
  { w with trace := w.trace ++ [deed] }

/-- Writes a line on the stream for errors. Whether that works makes no difference. -/
def complain (text : String) (w : World σ χ ω ο ι) : World σ χ ω ο ι :=
  record (.told text)
    { w with stderr := (s.stderr.write (Bytes.ofText text ++ [Bytes.newline]) w.stderr).2 }

/-- Explains a usage error. -/
def explain (e : UsageError) (w : World σ χ ω ο ι) : World σ χ ω ο ι :=
  complain s Invocation.usage (complain s ("error: " ++ e.message) (complain s notice w))

/-- Sets the journal up, if the variables name a file for it. -/
def setUpJournal (w : World σ χ ω ο ι) : World σ χ ω ο ι :=
  let reply := s.host.environment w.host
  let w := record (.sawEnvironment reply.answer) { w with host := reply.state }
  match Settings.logFile reply.answer with
  | none => w
  | some path => match s.openLog path w.host with
    | (none, host) => { w with host := host, logging := true }
    | (some e, host) =>
      complain s ("pstub: logging disabled: " ++ e.message) { w with host := host }

/-- Connects to the controller, supervises the target and closes the connection. -/
def supervise (inv : Invocation) (w : World σ χ ω ο ι) : StubExit × World σ χ ω ο ι :=
  let reply := s.connect inv.channel w.host
  let w := record (.connected inv.channel (reply.answer.map fun _ => ()))
    { w with host := reply.state, trace := w.trace ++ reply.events.map .noted }
  match reply.answer with
  | .error e => (.invocation, complain s e.message (record (.noted .controllerUnreachable) w))
  | .ok channel =>
    let (how, desk) := Supervisor.run ⟨s.host, s.channel, s.stderr⟩ inv
      ⟨w.host, channel, w.stderr, w.trace⟩
    (how, record .disconnected { w with
      host := desk.host
      link := .closed desk.channel
      stderr := desk.stderr
      trace := desk.trace })

/-- Shows the final message and waits for a line. -/
def acknowledge (inv : Invocation) (w : World σ χ ω ο ι) : World σ χ ω ο ι :=
  let (answer, stdout, stdin) := pause s.stdout s.stdin inv.continuation w.stdout w.stdin
  let w := record (.paused inv.continuation answer) { w with stdout := stdout, stdin := stdin }
  match answer with
  | .ok () => w
  | .error _ => record (.noted .pauseInterrupted) w

/-- The whole program, for an argument vector with the program's name first. -/
def main (arguments : List Bytes) (w : World σ χ ω ο ι) : StubExit × World σ χ ω ο ι :=
  match Invocation.parse arguments with
  | .error e => (.invocation, explain s e w)
  | .ok inv =>
    let (how, w) := supervise s inv (record (.noted .stubStarting) (setUpJournal s w))
    (how, acknowledge s inv (record (.noted .stubHalting) w))

end CommandLine

end LaunchStub
