import LaunchStub.Files.FileSystem
import LaunchStub.Notification.Element
import LaunchStub.Notification.Pipe
import LaunchStub.Text.Decimal

/-!
# Notification queues

A session announces the end of its target through a queue: a named pipe that the stub creates,
named after the stub's own process id. The stub keeps the read end and the name; the session gets
the write end, its poster, and posts one element or none.

## The model

`QueueStore` is the file system with all queues on it. A queue is known by its path. As long as it
is held its name stands in the file system; dropping it removes the name. A poster is used up by
posting and can be dropped unused, which ends the data of the queue.
-/

namespace LaunchStub

/-- The file system with the queues on it. -/
structure QueueStore where
  /-- The files, the names of the queues among them. -/
  files : FileSystem
  /-- The pipes behind the queues' paths. A queue is held while the read end of its pipe is open,
  its poster while the write end is. -/
  pipes : List (Bytes × Pipe) := []

/-- What a read of a queue meets. -/
inductive QueueRead where
  /-- The element is there. -/
  | element (element : UInt32)
  /-- The element may still come. -/
  | waits
  /-- No element will ever come. -/
  | failed (cause : IoError)
  /-- There is no such queue. -/
  | noQueue
  deriving DecidableEq, Repr

/-- What posting an element meets. -/
inductive QueuePost where
  /-- The element is in the queue. -/
  | posted
  /-- The element could not be written. -/
  | failed (cause : IoError)
  /-- There is no such poster. -/
  | noPoster
  deriving DecidableEq, Repr

namespace QueueStore

/-- The path of the queue of a process in a directory. -/
def nameFor (dir : Bytes) (owner : UInt32) : Bytes :=
  Path.join dir (Bytes.ofText ("pstub-term." ++ Decimal.nat owner.toNat))

/-- The pipe behind a path, closed at both ends if there never was one. -/
def pipeOf (store : QueueStore) (path : Bytes) : Pipe :=
  (store.pipes.lookup path).getD ⟨[], false, false⟩

/-- Puts a pipe behind a path. -/
def setPipe (store : QueueStore) (path : Bytes) (pipe : Pipe) : QueueStore :=
  { store with pipes := (path, pipe) :: store.pipes.filter fun entry => entry.1 ≠ path }

/-- Removes a path's name from the file system. Tells whether that worked. -/
def unlink (store : QueueStore) (path : Bytes) : Bool × QueueStore :=
  match store.files.remove path with
  | .ok files => (true, { store with files := files })
  | .error _ => (false, store)

/-- Is the queue of this path held? -/
def holdsQueue (store : QueueStore) (path : Bytes) : Bool := (store.pipeOf path).reader

/-- Is the poster of this path held? -/
def holdsPoster (store : QueueStore) (path : Bytes) : Bool := (store.pipeOf path).writer

/-- Drops a queue that is held, and its name with it. -/
def dropQueue (store : QueueStore) (path : Bytes) : QueueStore :=
  if store.holdsQueue path then
    ((store.unlink path).2).setPipe path (store.pipeOf path).closeReader
  else store

/-- Drops a poster that is held, so that the data of its queue end. -/
def dropPoster (store : QueueStore) (path : Bytes) : QueueStore :=
  if store.holdsPoster path then store.setPipe path (store.pipeOf path).closeWriter else store

/-- Creates the queue of a process in a directory, with its poster, and gives its path. A path with
a zero octet in it is no valid argument for a pipe. Once the pipe has its name its ends are opened;
if that fails the name goes again. A queue of the same path that is still held, its name removed by
somebody else, is dropped for the new one. -/
def create (store : QueueStore) (dir : Bytes) (owner : UInt32)
    (opening : Except IoError Unit := .ok ()) : Except IoError Bytes × QueueStore :=
  let path := nameFor dir owner
  if path.contains Bytes.nul then (.error (.os Errno.invalidArgument), store)
  else match store.files.create path .pipe with
    | .error e => (.error e, store)
    | .ok files => match opening with
      | .error e => (.error e, ({ store with files := files }.unlink path).2)
      | .ok () => (.ok path, ({ store with files := files }.dropQueue path).setPipe path {})

/-- Posts an element and drops the poster. -/
def post (store : QueueStore) (path : Bytes) (element : UInt32) : QueuePost × QueueStore :=
  if store.holdsPoster path then
    match (store.pipeOf path).write (Bytes.ofWord element) with
    | .ok pipe => (.posted, store.setPipe path pipe.closeWriter)
    | .error e => (.failed e, store.dropPoster path)
  else (.noPoster, store)

/-- Reads the element of a queue. -/
def read (store : QueueStore) (path : Bytes) : QueueRead × QueueStore :=
  if store.holdsQueue path then
    match (store.pipeOf path).readExactly Element.size with
    | (.got bytes, pipe) => match Bytes.word? bytes with
      | some element => (.element element, store.setPipe path pipe)
      | none => (.failed .shortRead, store.setPipe path pipe)
    | (.waits, _) => (.waits, store)
    | (.ended, pipe) => (.failed .shortRead, store.setPipe path pipe)
  else (.noQueue, store)

end QueueStore

end LaunchStub
