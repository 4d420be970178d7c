import LaunchStub.Files.FileSystem
import LaunchStub.Host

/-!
# The controller's socket

A connection to the controller is made through a socket in the file system. What is written to it
arrives in order; once the controller has closed its end nothing can be written any more.
-/

namespace LaunchStub

/-- A connection to the controller. -/
structure Connection where
  /-- What the controller has received. -/
  received : Bytes := []
  /-- Has the controller closed its end? -/
  hungUp : Bool := false
  deriving DecidableEq, Repr

namespace Connection

/-- The longest address. -/
def maxAddress : Nat := 107

/-- Finds the socket under a path. The address must fit and hold no zero octet. -/
def find (fs : FileSystem) (path : Bytes) : Except IoError Unit :=
  if path.contains Bytes.nul then
    .error (.described .invalidInput "paths must not contain interior null bytes")
  else if maxAddress < path.length then
    .error (.described .invalidInput "path must be shorter than SUN_LEN")
  else if path = [] then .error (.os Errno.invalidArgument)
  else match fs.resolve path with
    | .error e => .error e
    | .ok place => match fs.nodeAt? place with
      | some .socket => .ok ()
      | _ => .error (.os Errno.connectionRefused)

/-- Connects to the socket under a path. -/
def open_ (fs : FileSystem) (path : Bytes) : Except ChannelError Connection :=
  match find fs path with
  | .ok () => .ok {}
  | .error e => .error (.connect path e)

/-- Writes bytes. -/
def write (bytes : Bytes) (c : Connection) : Except IoError Unit × Connection :=
  if c.hungUp then (.error (.os Errno.brokenPipe), c)
  else (.ok (), { c with received := c.received ++ bytes })

/-- The connection as a stream. Nothing is held back. -/
def stream : Writer Connection := ⟨write, fun c => (.ok (), c)⟩

/-- The connection as the way to the controller. -/
def device : Channel Connection := .ofWriter stream

end Connection

end LaunchStub
