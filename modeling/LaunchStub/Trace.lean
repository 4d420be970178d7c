import LaunchStub.Host

/-!
# Traces

What the stub does, in the order in which it does it. A trace holds every call to a host with its
answer, every message with what became of it, every line for the user and every event of the
journal, so that whatever is said about the course of a run is said about a list.

## The model

`Deed` is one entry. What can be seen from one side is part of the trace: the controller sees the
messages that were accepted (`Deed.accepted?`), the host sees the calls (`Deed.call?`), the journal
keeps the events (`Deed.event?`).
-/

namespace LaunchStub

/-- One thing that the stub did, with the answer it got. -/
inductive Deed where
  /-- Asked to enter a directory. -/
  | changedDir (dir : Bytes) (answer : Except IoError Unit)
  /-- Asked what kind of program a file is. -/
  | queriedType (target : Bytes) (answer : Except IoError AppType)
  /-- Asked for the variables. -/
  | sawEnvironment (answer : Environment)
  /-- Asked to apply a directive. -/
  | extendedPath (directive : Directive) (value : Bytes) (answer : Except IoError Unit)
  /-- Asked to start the target; the answer is the process id of the child. -/
  | launched (strategy : Strategy) (request : LaunchRequest) (answer : Except LaunchError UInt32)
  /-- Awaited the end of the child with this process id. -/
  | awaited (id : UInt32) (answer : Except IoError RawTermination)
  /-- Let go of the child with this process id. -/
  | released (id : UInt32)
  /-- Sent a message to the controller. -/
  | sent (message : Message) (answer : Except ChannelError Unit)
  /-- Told the user something. -/
  | told (text : String)
  /-- Noted an event. -/
  | noted (event : LogEvent)
  /-- Connected to the controller at an address. -/
  | connected (address : Bytes) (answer : Except ChannelError Unit)
  /-- Closed the connection to the controller. -/
  | disconnected
  /-- Showed the final message and waited for a line. -/
  | paused (message : Bytes) (answer : Except IoError Unit)
  deriving DecidableEq, Repr

/-- A call that names something outside the host: a file, a directive, a program to start. -/
inductive HostCall where
  /-- Enter a directory. -/
  | changeDir (dir : Bytes)
  /-- Tell the kind of a program. -/
  | queryType (target : Bytes)
  /-- Apply a directive. -/
  | extendPath (directive : Directive) (value : Bytes)
  /-- Start a target with these arguments and variables. -/
  | launch (strategy : Strategy) (target arguments : Bytes) (env : Environment)
  deriving DecidableEq, Repr

namespace Deed

/-- The message of a deed, if the controller accepted one by it. -/
def accepted? : Deed → Option Message
  | .sent message (.ok ()) => some message
  | _ => none

/-- The call of a deed, without its answer. -/
def call? : Deed → Option HostCall
  | .changedDir dir _ => some (.changeDir dir)
  | .queriedType target _ => some (.queryType target)
  | .extendedPath directive value _ => some (.extendPath directive value)
  | .launched strategy request _ =>
    some (.launch strategy request.target request.arguments request.env.vars)
  | _ => none

/-- The event of a deed. -/
def event? : Deed → Option LogEvent
  | .noted event => some event
  | _ => none

end Deed

/-- What happened, in order. -/
abbrev Trace := List Deed

namespace Trace

/-- The messages that the controller accepted, in order. -/
def accepted (trace : Trace) : List Message := trace.filterMap Deed.accepted?

/-- What the host was asked, in order. -/
def calls (trace : Trace) : List HostCall := trace.filterMap Deed.call?

/-- The events of the journal, in order. -/
def journal (trace : Trace) : List LogEvent := trace.filterMap Deed.event?

end Trace

end LaunchStub
