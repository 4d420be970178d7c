import LaunchStub.Bytes
import LaunchStub.IoError

/-!
# Pipes

A pipe carries bytes from its write end to its read end, in order. Reading sees the end of the data
only when no bytes are left and the write end is closed; while it is open a reader waits. Writing
fails once the read end is closed.
-/

namespace LaunchStub

/-- A pipe with one read end and one write end. -/
structure Pipe where
  /-- The bytes written and not yet read. -/
  pending : Bytes := []
  /-- Is the read end open? -/
  reader : Bool := true
  /-- Is the write end open? -/
  writer : Bool := true
  deriving DecidableEq, Repr

/-- What a read of a number of bytes meets. -/
inductive PipeRead where
  /-- The bytes are there. -/
  | got (bytes : Bytes)
  /-- They may still come. -/
  | waits
  /-- They will never come. -/
  | ended
  deriving DecidableEq, Repr

namespace Pipe

/-- Writes bytes. Nobody can read them if the read end is closed. -/
def write (pipe : Pipe) (bytes : Bytes) : Except IoError Pipe :=
  if pipe.reader then .ok { pipe with pending := pipe.pending ++ bytes }
  else .error (.os Errno.brokenPipe)

/-- Reads exactly this many bytes. A read that the end of the data cuts short uses up what is left.
-/
def readExactly (pipe : Pipe) (count : Nat) : PipeRead × Pipe :=
  if count ≤ pipe.pending.length then
    (.got (pipe.pending.take count), { pipe with pending := pipe.pending.drop count })
  else if pipe.writer then (.waits, pipe)
  else (.ended, { pipe with pending := [] })

/-- Closes the write end. -/
def closeWriter (pipe : Pipe) : Pipe := { pipe with writer := false }

/-- Closes the read end. -/
def closeReader (pipe : Pipe) : Pipe := { pipe with reader := false }

end Pipe

end LaunchStub
