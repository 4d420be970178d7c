import LaunchStub.Host

/-!
# The final pause

Before it ends the stub shows a message and waits for a line of input, so that a console that was
opened for the target stays open until its output has been read.

## The model

`pause` works on any stream to write to and any stream to read from. Two such streams are here:
`LimitedOutput` takes a number of bytes and then no more, and `ChunkedInput` gives its data in
chunks, then fails once if it is told to, and then ends. A read that is broken off is made again;
one that fails loses what it had taken of its line.
-/

namespace LaunchStub

/-- A stream that lines are read from. -/
structure Reader (ι : Type) where
  /-- Reads up to the end of a line, which belongs to it, or to the end of the data. -/
  readLine : ι → Except IoError Bytes × ι

/-- Shows a message as a line, then waits for a line. The first failure ends it. -/
def pause {ο ι : Type} (output : Writer ο) (input : Reader ι) (message : Bytes)
    (out : ο) (inp : ι) : Except IoError Unit × ο × ι :=
  match output.write message out with
  | (.error e, out) => (.error e, out, inp)
  | (.ok (), out) => match output.write [Bytes.newline] out with
    | (.error e, out) => (.error e, out, inp)
    | (.ok (), out) => match output.flush out with
      | (.error e, out) => (.error e, out, inp)
      | (.ok (), out) => match input.readLine inp with
        | (.error e, inp) => (.error e, out, inp)
        | (.ok _, inp) => (.ok (), out, inp)

/-- A stream that takes a number of bytes and then no more. -/
structure LimitedOutput where
  /-- How many bytes it still takes; without a limit, all. -/
  room : Option Nat := none
  /-- Does handing on fail? -/
  flushFails : Bool := false
  /-- The bytes taken so far. -/
  written : Bytes := []
  /-- How many times the bytes were handed on. -/
  flushes : Nat := 0
  deriving DecidableEq, Repr

namespace LimitedOutput

/-- Takes bytes, as many as there is room for. -/
def write (bytes : Bytes) (out : LimitedOutput) : Except IoError Unit × LimitedOutput :=
  match out.room with
  | none => (.ok (), { out with written := out.written ++ bytes })
  | some room =>
    let after := { out with
      written := out.written ++ bytes.take room
      room := some (room - bytes.length) }
    (if bytes.length ≤ room then .ok () else .error (.bare .brokenPipe), after)

/-- Hands on what was taken. -/
def flush (out : LimitedOutput) : Except IoError Unit × LimitedOutput :=
  if out.flushFails then (.error (.bare .brokenPipe), out)
  else (.ok (), { out with flushes := out.flushes + 1 })

/-- The limited stream as a device. -/
def device : Writer LimitedOutput := ⟨write, flush⟩

end LimitedOutput

/-- A stream that gives its data in chunks. -/
structure ChunkedInput where
  /-- The chunks to come. -/
  chunks : List Bytes
  /-- The error that is raised once behind the last chunk. -/
  failure : Option IoError := none
  deriving DecidableEq, Repr

namespace ChunkedInput

/-- What is left behind the last chunk: an error to raise, or the end of the data. An interruption
is as good as the end, for the read is made again. -/
def atEnd (failure : Option IoError) : Except IoError Bytes :=
  match failure with
  | none => .ok []
  | some e => if e.isInterrupted then .ok [] else .error e

/-- Reads a line from chunks that are followed by an error, if there is one. -/
def readLineFrom (failure : Option IoError) : List Bytes → Except IoError Bytes × ChunkedInput
  | [] => (atEnd failure, ⟨[], none⟩)
  | chunk :: rest =>
    let start := chunk.takeWhile (· ≠ Bytes.newline)
    match chunk.dropWhile (· ≠ Bytes.newline) with
    | newline :: tail => (.ok (start ++ [newline]), ⟨tail :: rest, failure⟩)
    | [] =>
      let (line, input) := readLineFrom failure rest
      (line.map (chunk ++ ·), input)

/-- Reads a line. -/
def readLine (input : ChunkedInput) : Except IoError Bytes × ChunkedInput :=
  readLineFrom input.failure input.chunks

/-- The data that have not been read. -/
def remaining (input : ChunkedInput) : Bytes := input.chunks.flatten

/-- The chunked stream as a device. -/
def device : Reader ChunkedInput := ⟨readLine⟩

/-- Pauses with one message after the other on the same streams, and gives what became of each and
the streams by then. -/
def pauses : List Bytes → LimitedOutput → ChunkedInput →
    List (Except IoError Unit × LimitedOutput) × ChunkedInput
  | [], _, inp => ([], inp)
  | message :: rest, out, inp =>
    let (answer, out, inp) := pause LimitedOutput.device device message out inp
    let (steps, inp) := pauses rest out inp
    ((answer, out) :: steps, inp)

end ChunkedInput

end LaunchStub
