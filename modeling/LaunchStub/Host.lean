import LaunchStub.Command
import LaunchStub.Executable
import LaunchStub.Journal
import LaunchStub.Message
import LaunchStub.Text.Utf8

/-!
# What the supervisor works with

The supervisor asks a host for what only an operating system can do, tells a controller what
happened over a channel, and tells the user over a stream. All three are taken here for what they
are asked and answer, nothing else: any state, any answer.

## The model

A device is a record of operations on a state of its own. An operation gives a `Reply`: the answer,
the state afterwards, and the events that it left in the journal. The state type of each device is
a parameter, so a statement about every host is a statement about every record of operations on
every type.
-/

namespace LaunchStub

/-- What an operation of a device gives. -/
structure Reply (σ α : Type) where
  /-- The answer. -/
  answer : α
  /-- The device afterwards. -/
  state : σ
  /-- What the operation left in the journal. -/
  events : List LogEvent := []

/-- Why a target could not be launched. -/
inductive LaunchError where
  /-- The notification queue of this name could not be created. -/
  | queueCreate (queue : Bytes) (cause : IoError)
  /-- The operating system refused to start the target. -/
  | start (cause : IoError)
  deriving DecidableEq, Repr

namespace LaunchError

/-- The error behind a failed launch. -/
def cause : LaunchError → IoError
  | .queueCreate _ cause | .start cause => cause

/-- The error number of a failed launch, zero where there is none. -/
def code (e : LaunchError) : Int := e.cause.code

/-- The text shown for a failed launch. -/
def message : LaunchError → String
  | .queueCreate queue cause => "Cannot create " ++ Utf8.lossy queue ++ ": " ++ cause.message
  | .start cause => cause.message

/-- Is the controller told? It is told of a failed start, not of a failed set-up. -/
def isReported : LaunchError → Bool
  | .start _ => true
  | .queueCreate _ _ => false

end LaunchError

/-- The operating system, as far as the supervisor asks it. `κ` is the type of a launched child. -/
structure Host (σ κ : Type) where
  /-- Enters a directory, which the target then runs in. -/
  changeDir : Bytes → σ → Reply σ (Except IoError Unit)
  /-- Tells what kind of program a file is. -/
  queryType : Bytes → σ → Reply σ (Except IoError AppType)
  /-- The variables as they are now. -/
  environment : σ → Reply σ Environment
  /-- Applies a directive to the variables. -/
  extendPath : Directive → Bytes → σ → Reply σ (Except IoError Unit)
  /-- Starts the target. -/
  launch : Strategy → LaunchRequest → σ → Reply σ (Except LaunchError κ)
  /-- The process id of a child. -/
  childId : κ → UInt32
  /-- Awaits the end of a child and lets go of it. -/
  wait : κ → σ → Reply σ (Except IoError RawTermination)
  /-- Lets go of a child without awaiting its end. -/
  release : κ → σ → Reply σ Unit

/-- Why the controller could not be told. -/
inductive ChannelError where
  /-- There is no connection to this address. -/
  | connect (path : Bytes) (cause : IoError)
  /-- A line could not be written. -/
  | write (cause : IoError)
  deriving DecidableEq, Repr

/-- The text shown for a channel error. -/
def ChannelError.message : ChannelError → String
  | .connect path cause => "Cannot connect comm socket " ++ Utf8.lossy path ++ ": " ++ cause.message
  | .write cause => "Cannot write to comm socket: " ++ cause.message

/-- A stream that bytes are written to. -/
structure Writer (ω : Type) where
  /-- Writes all the bytes, or as many as the stream takes before it fails. -/
  write : Bytes → ω → Except IoError Unit × ω
  /-- Hands on what is held back. -/
  flush : ω → Except IoError Unit × ω

/-- The stream that takes everything and keeps it. -/
def Writer.keeping : Writer Bytes where
  write bytes kept := (.ok (), kept ++ bytes)
  flush kept := (.ok (), kept)

/-- The way to the controller: it takes a message or refuses it. -/
structure Channel (χ : Type) where
  /-- Sends one message as one line. -/
  send : Message → χ → Reply χ (Except ChannelError Unit)

/-- The way to the controller over a stream: a message is written as its line. -/
def Channel.ofWriter {ω : Type} (writer : Writer ω) : Channel ω where
  send message stream :=
    match writer.write message.line stream with
    | (.error e, stream) => ⟨.error (.write e), stream, []⟩
    | (.ok (), stream) => match writer.flush stream with
      | (.error e, stream) => ⟨.error (.write e), stream, []⟩
      | (.ok (), stream) => ⟨.ok (), stream, [.messageSent]⟩

end LaunchStub
