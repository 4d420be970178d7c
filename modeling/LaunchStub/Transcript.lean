import LaunchStub.Supervisor

/-!
# Runs seen from outside

Of a series of runs the world sees how each ended, which messages the controller accepted, what the
user was told, and what the host was asked. Here this is put together for any host, a channel that
accepts a number of messages and then no more, and a stream for the user that takes everything.
-/

namespace LaunchStub

/-- A channel that keeps what it accepts and refuses everything past its limit. -/
structure LimitedChannel where
  /-- How many messages it accepts; without a limit, all. -/
  limit : Option Nat
  /-- The messages accepted so far, in order. -/
  accepted : List Message := []
  deriving DecidableEq, Repr

namespace LimitedChannel

/-- Has the channel accepted as many messages as it will? -/
def isFull (channel : LimitedChannel) : Bool :=
  channel.limit.any (· ≤ channel.accepted.length)

/-- Accepts a message, or refuses it if the channel is full. -/
def send (message : Message) (channel : LimitedChannel) :
    Reply LimitedChannel (Except ChannelError Unit) :=
  if channel.isFull then ⟨.error (.write (.bare .brokenPipe)), channel, []⟩
  else ⟨.ok (), { channel with accepted := channel.accepted ++ [message] }, []⟩

/-- The limited channel as a device. -/
def device : Channel LimitedChannel := ⟨send⟩

/-- Sends messages one after the other, and gives what became of each and what was accepted by
then. -/
def sendAll : List Message → LimitedChannel →
    List (Except ChannelError Unit × List Message)
  | [], _ => []
  | message :: rest, channel =>
    let reply := send message channel
    (reply.answer, reply.state.accepted) :: sendAll rest reply.state

end LimitedChannel

/-- What can be seen of a series of runs from outside. -/
structure Transcript where
  /-- How each run ended. -/
  exits : List StubExit
  /-- The messages that the controller accepted, in order. -/
  sent : List Message
  /-- What the user was told. -/
  stderr : Bytes
  /-- What the host was asked, in order. -/
  calls : List HostCall
  deriving DecidableEq, Repr

/-- What becomes of argument vectors, given how the runs of those that can be read ended: each
run's end stands where its vector does. -/
def Invocation.answers : List (List Bytes) → List StubExit → List (Except UsageError StubExit)
  | [], _ => []
  | arguments :: rest, exits =>
    match parse arguments, exits with
    | .error e, exits => .error e :: answers rest exits
    | .ok _, how :: exits => .ok how :: answers rest exits
    | .ok _, [] => answers rest []

namespace Supervisor

/-- Runs invocations one after the other on a host, over a limited channel, and gives what can be
seen of it. -/
def transcript {σ κ : Type} (host : Host σ κ) (state : σ) (limit : Option Nat)
    (invocations : List Invocation) : Transcript :=
  let devices : Supervisor σ κ LimitedChannel Bytes :=
    ⟨host, LimitedChannel.device, Writer.keeping⟩
  let (exits, desk) := devices.runAll invocations ⟨state, ⟨limit, []⟩, [], []⟩
  ⟨exits, desk.channel.accepted, desk.stderr, desk.trace.calls⟩

/-- The same for argument vectors, those that cannot be read left out of the runs. -/
def transcriptOf {σ κ : Type} (host : Host σ κ) (state : σ) (limit : Option Nat)
    (vectors : List (List Bytes)) : List (Except UsageError StubExit) × Transcript :=
  let seen := transcript host state limit (vectors.filterMap fun v => (Invocation.parse v).toOption)
  (Invocation.answers vectors seen.exits, seen)

end Supervisor

end LaunchStub
