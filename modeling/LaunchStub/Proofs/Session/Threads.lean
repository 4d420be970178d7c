import LaunchStub.Host
import LaunchStub.Notification.Queue
import LaunchStub.WaitStatus

/-!
# The threads of a session launch

Three parties take part in a session launch, each at its own pace: the stub, which creates the
queue, starts the monitor and the target and in the end reads the queue or lets go of it; the
monitor, a thread that gets the child from the stub, waits for its end and posts it; and the target.
The stub hands the child over through a channel inside the process, whose sending end goes when the
launch returns, and the monitor owns the poster of the queue.

## The model

`Launch` is the state of all three: where each of them is, the child that is on its way to the
monitor, and the store with the queue. `StubStep`, `MonitorStep` and `TargetStep` are what each of
them can do next, `Stub.Step` is a step of any of them, and `Stub.Runs` is any number of steps in
any order. Operations on the queue are those of `QueueStore`, one step each, except that posting is
two: writing the element, and dropping the poster.

## Honest scope

Handing the child over and waiting for it do not fail here. A read may fail at any time for a
reason of its own, but it meets the end of the data only as `Pipe.readExactly` says.
-/

namespace LaunchStub

/-- How the stub's part in a launch ends. -/
inductive Ending where
  /-- The launch failed. -/
  | refused (e : LaunchError)
  /-- The end of the target was read from the queue. -/
  | observed (raw : RawTermination)
  /-- The queue could not be read. -/
  | lost (e : IoError)
  /-- The child was let go of without reading. -/
  | letGo
  deriving DecidableEq, Repr

/-- Where the stub is: what it does next. -/
inductive StubPhase where
  /-- It creates the queue. -/
  | creating
  /-- It starts the monitor, which gets the poster. -/
  | starting
  /-- It starts the target. -/
  | spawning
  /-- It hands the child over to the monitor. -/
  | handingOver (pid : UInt32)
  /-- It gives the sending end up and returns from the launch. -/
  | returning (launched : Except IoError UInt32)
  /-- It reads the queue or lets go of the child. -/
  | holding (pid : UInt32)
  /-- It drops the queue. -/
  | closing (how : Ending)
  /-- It is done. -/
  | finished (how : Ending)
  deriving DecidableEq, Repr

/-- How the monitor's part in a launch ends. -/
inductive MonitorEnd where
  /-- No child came. -/
  | idle
  /-- It wrote this element. -/
  | posted (element : UInt32)
  /-- It could not write the element. -/
  | unheard (cause : IoError)
  deriving DecidableEq, Repr

/-- Where the monitor is: what it does next. -/
inductive MonitorPhase where
  /-- It has not been started. -/
  | absent
  /-- It waits for the child to come. -/
  | receiving
  /-- It waits for the end of the child. -/
  | waiting (pid : UInt32)
  /-- It writes the element. -/
  | posting (pid : UInt32) (status : WaitStatus)
  /-- It drops the poster. -/
  | leaving (how : MonitorEnd)
  /-- It is done. -/
  | ended (how : MonitorEnd)
  deriving DecidableEq, Repr

/-- Where the target is. -/
inductive TargetPhase where
  /-- It has not been started. -/
  | absent
  /-- It runs. -/
  | running (pid : UInt32)
  /-- It has ended. -/
  | ended (pid : UInt32) (status : WaitStatus)
  deriving DecidableEq, Repr

/-- A session launch in progress. -/
structure Launch where
  /-- The stub. -/
  stub : StubPhase
  /-- The monitor. -/
  monitor : MonitorPhase
  /-- The child that was sent to the monitor and has not come there yet. -/
  inFlight : Option UInt32
  /-- The target. -/
  target : TargetPhase
  /-- The files and the queues. -/
  store : QueueStore

/-- A launch that has not begun. -/
def Launch.start (store : QueueStore) : Launch := ⟨.creating, .absent, none, .absent, store⟩

/-- Is the sending end of the channel to the monitor still there? -/
def StubPhase.holdsSender : StubPhase → Bool
  | .starting | .spawning | .handingOver _ | .returning _ => true
  | .creating | .holding _ | .closing _ | .finished _ => false

/-- A step, by who takes it. -/
inductive Move where
  /-- The stub created the queue. -/
  | created
  /-- The stub could not give the queue its name. -/
  | createFailed (e : IoError)
  /-- The stub gave the queue its name but could not open its ends, and took the name away. -/
  | openFailed (e : IoError)
  /-- The stub started the monitor. -/
  | monitorStarted
  /-- The stub could not start the monitor. -/
  | monitorFailed (e : IoError)
  /-- The stub started the target. -/
  | spawned (pid : UInt32)
  /-- The stub could not start the target. -/
  | spawnFailed (e : IoError)
  /-- The stub sent the child to the monitor. -/
  | handedOver (pid : UInt32)
  /-- The stub gave the sending end up. -/
  | senderDropped
  /-- The stub read an element. -/
  | read (element : UInt32)
  /-- The stub could not read. -/
  | readFailed (e : IoError)
  /-- The stub let go of the child. -/
  | childDropped
  /-- The stub dropped the queue. -/
  | queueDropped
  /-- The monitor got the child. -/
  | received (pid : UInt32)
  /-- The monitor learned that no child will come. -/
  | gaveUp
  /-- The monitor learned how the child ended. -/
  | waited (status : WaitStatus)
  /-- The monitor wrote an element. -/
  | wrote (element : UInt32)
  /-- The monitor could not write. -/
  | writeFailed (e : IoError)
  /-- The monitor dropped the poster. -/
  | posterDropped
  /-- The target ended. -/
  | targetEnded (status : WaitStatus)
  deriving DecidableEq, Repr

/-- A stub that launches: its process id, and the directory for its queues. -/
structure Stub where
  /-- The directory. -/
  dir : Bytes
  /-- The process id. -/
  owner : UInt32

namespace Stub

/-- The path of the stub's queue. -/
def queue (s : Stub) : Bytes := QueueStore.nameFor s.dir s.owner

/-- What the stub can do. -/
inductive StubStep (s : Stub) : Launch → Move → Launch → Prop
  /-- The queue is created. -/
  | created {store store' monitor inFlight target} :
      store.create s.dir s.owner = (.ok s.queue, store') →
        StubStep s ⟨.creating, monitor, inFlight, target, store⟩ .created
          ⟨.starting, monitor, inFlight, target, store'⟩
  /-- The queue gets no name. -/
  | createFailed {store store' monitor inFlight target e} :
      store.create s.dir s.owner = (.error e, store') →
        StubStep s ⟨.creating, monitor, inFlight, target, store⟩ (.createFailed e)
          ⟨.finished (.refused (.queueCreate s.queue e)), monitor, inFlight, target, store'⟩
  /-- The queue gets a name that goes again, as one of its ends cannot be opened. -/
  | openFailed {store named store' monitor inFlight target e} :
      store.create s.dir s.owner = (.ok s.queue, named) →
      store.create s.dir s.owner (.error e) = (.error e, store') →
        StubStep s ⟨.creating, monitor, inFlight, target, store⟩ (.openFailed e)
          ⟨.finished (.refused (.queueCreate s.queue e)), monitor, inFlight, target, store'⟩
  /-- The monitor is started. -/
  | monitorStarted {store inFlight target} :
      StubStep s ⟨.starting, .absent, inFlight, target, store⟩ .monitorStarted
        ⟨.spawning, .receiving, inFlight, target, store⟩
  /-- The monitor is not started, and the poster that it was to get goes. -/
  | monitorFailed {store monitor inFlight target e} :
      StubStep s ⟨.starting, monitor, inFlight, target, store⟩ (.monitorFailed e)
        ⟨.returning (.error e), monitor, inFlight, target, store.dropPoster s.queue⟩
  /-- The target is started, with any process id. -/
  | spawned {store monitor inFlight pid} :
      StubStep s ⟨.spawning, monitor, inFlight, .absent, store⟩ (.spawned pid)
        ⟨.handingOver pid, monitor, inFlight, .running pid, store⟩
  /-- The target is not started. -/
  | spawnFailed {store monitor inFlight target e} :
      StubStep s ⟨.spawning, monitor, inFlight, target, store⟩ (.spawnFailed e)
        ⟨.returning (.error e), monitor, inFlight, target, store⟩
  /-- The child goes to the monitor. -/
  | handedOver {store monitor target pid} :
      StubStep s ⟨.handingOver pid, monitor, none, target, store⟩ (.handedOver pid)
        ⟨.returning (.ok pid), monitor, some pid, target, store⟩
  /-- The launch returns with the child. -/
  | returned {store monitor inFlight target pid} :
      StubStep s ⟨.returning (.ok pid), monitor, inFlight, target, store⟩ .senderDropped
        ⟨.holding pid, monitor, inFlight, target, store⟩
  /-- The launch returns with an error, and the queue is to go. -/
  | refused {store monitor inFlight target e} :
      StubStep s ⟨.returning (.error e), monitor, inFlight, target, store⟩ .senderDropped
        ⟨.closing (.refused (.start e)), monitor, inFlight, target, store⟩
  /-- An element is read. -/
  | read {store store' monitor inFlight target pid element} :
      store.read s.queue = (.element element, store') →
        StubStep s ⟨.holding pid, monitor, inFlight, target, store⟩ (.read element)
          ⟨.closing (.observed (.exited (Element.result element).toNat)), monitor, inFlight, target,
            store'⟩
  /-- The read fails as the queue has it: the data have ended. -/
  | readEnded {store store' monitor inFlight target pid e} :
      store.read s.queue = (.failed e, store') →
        StubStep s ⟨.holding pid, monitor, inFlight, target, store⟩ (.readFailed e)
          ⟨.closing (.lost e), monitor, inFlight, target, store'⟩
  /-- The read fails for a reason of its own. -/
  | readBroken {store monitor inFlight target pid e} : e ≠ .shortRead →
      StubStep s ⟨.holding pid, monitor, inFlight, target, store⟩ (.readFailed e)
        ⟨.closing (.lost e), monitor, inFlight, target, store⟩
  /-- The child is dropped unread. -/
  | childDropped {store monitor inFlight target pid} :
      StubStep s ⟨.holding pid, monitor, inFlight, target, store⟩ .childDropped
        ⟨.closing .letGo, monitor, inFlight, target, store⟩
  /-- The queue goes. -/
  | queueDropped {store monitor inFlight target how} :
      StubStep s ⟨.closing how, monitor, inFlight, target, store⟩ .queueDropped
        ⟨.finished how, monitor, inFlight, target, store.dropQueue s.queue⟩

/-- What the monitor can do. -/
inductive MonitorStep (s : Stub) : Launch → Move → Launch → Prop
  /-- The child comes. -/
  | received {store stub target pid} :
      MonitorStep s ⟨stub, .receiving, some pid, target, store⟩ (.received pid)
        ⟨stub, .waiting pid, none, target, store⟩
  /-- No child is on its way and nobody can send one any more. -/
  | gaveUp {store stub target} : stub.holdsSender = false →
      MonitorStep s ⟨stub, .receiving, none, target, store⟩ .gaveUp
        ⟨stub, .leaving .idle, none, target, store⟩
  /-- The child has ended. -/
  | waited {store stub inFlight pid status} :
      MonitorStep s ⟨stub, .waiting pid, inFlight, .ended pid status, store⟩ (.waited status)
        ⟨stub, .posting pid status, inFlight, .ended pid status, store⟩
  /-- The element is written. -/
  | wrote {store stub inFlight target pid status pipe} :
      (store.pipeOf s.queue).write (Bytes.ofWord (Element.pack status.sessionResult pid)) =
          .ok pipe →
        MonitorStep s ⟨stub, .posting pid status, inFlight, target, store⟩
          (.wrote (Element.pack status.sessionResult pid))
          ⟨stub, .leaving (.posted (Element.pack status.sessionResult pid)), inFlight, target,
            store.setPipe s.queue pipe⟩
  /-- Nobody reads any more. -/
  | writeFailed {store stub inFlight target pid status e} :
      (store.pipeOf s.queue).write (Bytes.ofWord (Element.pack status.sessionResult pid)) =
          .error e →
        MonitorStep s ⟨stub, .posting pid status, inFlight, target, store⟩ (.writeFailed e)
          ⟨stub, .leaving (.unheard e), inFlight, target, store⟩
  /-- The poster goes. -/
  | posterDropped {store stub inFlight target how} :
      MonitorStep s ⟨stub, .leaving how, inFlight, target, store⟩ .posterDropped
        ⟨stub, .ended how, inFlight, target, store.dropPoster s.queue⟩

/-- What the target can do: end, with any status. -/
inductive TargetStep : Launch → Move → Launch → Prop
  /-- The target ends. -/
  | ended {store stub monitor inFlight pid status} :
      TargetStep ⟨stub, monitor, inFlight, .running pid, store⟩ (.targetEnded status)
        ⟨stub, monitor, inFlight, .ended pid status, store⟩

/-- A step of any of the three. -/
inductive Step (s : Stub) : Launch → Move → Launch → Prop
  /-- The stub does something. -/
  | stub {l l' : Launch} {move : Move} : s.StubStep l move l' → Step s l move l'
  /-- The monitor does something. -/
  | monitor {l l' : Launch} {move : Move} : s.MonitorStep l move l' → Step s l move l'
  /-- The target does something. -/
  | target {l l' : Launch} {move : Move} : TargetStep l move l' → Step s l move l'

/-- Any number of steps, in any order. -/
inductive Runs (s : Stub) (l : Launch) : List Move → Launch → Prop
  /-- No step. -/
  | nil : Runs s l [] l
  /-- Steps and one more. -/
  | snoc {m m' : Launch} {moves : List Move} {move : Move} :
      Runs s l moves m → s.Step m move m' → Runs s l (moves ++ [move]) m'

end Stub

end LaunchStub
