import LaunchStub.LoaderPath
import LaunchStub.Notification.Element
import LaunchStub.Transcript
import LaunchStub.WaitStatus

/-!
# Rehearsals

A rehearsal is one launch over a small operating system that holds the target's content, the
environment, and what is to go wrong. Everything that a run depends on is in it, so two rehearsals
can be compared fault by fault.

## The model

A fault is the error that a call answers with. The variables follow the directives as those of a
process do; but they are a list that the rehearsal holds, so unless it is told otherwise a variable
that is removed loses its first occurrence only. A launched child has a process id and a wait
status; awaited directly it tells the status itself, awaited through a session it tells what is left
of the status after it has gone through the notification queue.
-/

namespace LaunchStub

/-- What goes wrong in a rehearsal. -/
structure Faults where
  /-- Entering the working directory. -/
  chdir : Option IoError := none
  /-- Finding out the kind of program. -/
  query : Option IoError := none
  /-- Creating the notification queue; only a session needs one. -/
  queue : Option IoError := none
  /-- Starting the target. -/
  start : Option IoError := none
  /-- Awaiting its end. -/
  wait : Option IoError := none
  deriving DecidableEq, Repr

/-- All that one launch depends on. -/
structure Rehearsal where
  /-- The variables, and what directives have made of them. -/
  env : SteeredEnvironment
  /-- The content of the target. -/
  content : Bytes
  /-- The process id of the child. -/
  pid : UInt32
  /-- The status that the child ends with. -/
  status : WaitStatus
  /-- What goes wrong. -/
  faults : Faults := {}
  deriving DecidableEq, Repr

/-- A child of a rehearsal. -/
structure RehearsedChild where
  /-- How it was started and is awaited. -/
  strategy : Strategy
  /-- Its process id. -/
  id : UInt32
  deriving DecidableEq, Repr

namespace Rehearsal

/-- The error if there is one, and the value otherwise. -/
def unlessFault {α : Type} (fault : Option IoError) (value : Except IoError α) :
    Except IoError α :=
  match fault with
  | some e => .error e
  | none => value

/-- The name of the notification queue. -/
def queueName (pid : UInt32) : Bytes := Bytes.ofText ("/q/pstub-term." ++ Decimal.nat pid.toNat)

/-- What a strategy learns of the child's end: the status itself, or what the element that the
session posts says of it. -/
def observed (strategy : Strategy) (pid : UInt32) (status : WaitStatus) : RawTermination :=
  match strategy with
  | .direct => status.termination
  | .session => .exited (Element.result (Element.pack status.sessionResult pid)).toNat

/-- What becomes of a launch: the queue comes before the start, and only sessions have one. -/
def launched (strategy : Strategy) (r : Rehearsal) : Except LaunchError RehearsedChild :=
  match strategy, r.faults.queue, r.faults.start with
  | .session, some e, _ => .error (.queueCreate (queueName r.pid) e)
  | _, _, some e => .error (.start e)
  | _, _, none => .ok ⟨strategy, r.pid⟩

/-- The rehearsal's operating system. -/
def host (removal : Removal := .firstOccurrence) : Host Rehearsal RehearsedChild where
  changeDir _ r := ⟨unlessFault r.faults.chdir (.ok ()), r, []⟩
  queryType _ r := ⟨unlessFault r.faults.query (AppType.classify r.content), r, []⟩
  environment r := ⟨r.env.vars, r, []⟩
  extendPath directive value r :=
    let (answer, env) := r.env.extend directive value removal
    ⟨answer, { r with env := env }, []⟩
  launch strategy _ r := ⟨r.launched strategy, r, []⟩
  childId := RehearsedChild.id
  wait child r :=
    ⟨unlessFault r.faults.wait (.ok (observed child.strategy child.id r.status)), r, []⟩
  release _ r := ⟨(), r, []⟩

/-- What can be seen of a rehearsal of an invocation. -/
def perform (r : Rehearsal) (limit : Option Nat) (inv : Invocation)
    (removal : Removal := .firstOccurrence) : Transcript :=
  Supervisor.transcript (host removal) r limit [inv]

end Rehearsal

end LaunchStub
