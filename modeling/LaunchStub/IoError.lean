import LaunchStub.IoError.Errno

/-!
# Input and output errors

Why a call failed: an error number of the operating system, a bare kind of failure, or a kind with
a text of its own. Only the first carries a number, so `IoError.code` of the others is zero; this
is the number that goes to the controller.
-/

namespace LaunchStub

instance decidableEqExcept {ε α : Type _} [DecidableEq ε] [DecidableEq α] :
    DecidableEq (Except ε α)
  | .ok x, .ok y => decidable_of_iff (x = y) ⟨congrArg Except.ok, Except.ok.inj⟩
  | .error e, .error e' => decidable_of_iff (e = e') ⟨congrArg Except.error, Except.error.inj⟩
  | .ok _, .error _ => .isFalse nofun
  | .error _, .ok _ => .isFalse nofun

/-- What is done with a value leaves an error as it is. -/
theorem map_eq_error_iff {ε α β : Type} {f : α → β} {x : Except ε α} {e : ε} :
    x.map f = .error e ↔ x = .error e := by
  cases x <;> simp [Except.map]

/-- A value is what was done with a value. -/
theorem map_eq_ok_iff {ε α β : Type} {f : α → β} {x : Except ε α} {b : β} :
    x.map f = .ok b ↔ ∃ a, x = .ok a ∧ f a = b := by
  cases x <;> simp [Except.map]

/-- The kinds of failure that need no error number. -/
inductive ErrorKind where
  /-- Nothing has that name. -/
  | notFound
  /-- The caller may not do that. -/
  | permissionDenied
  /-- Nobody accepts the connection. -/
  | connectionRefused
  /-- The other side broke the connection off. -/
  | connectionReset
  /-- The other side no longer reads. -/
  | brokenPipe
  /-- The name is taken. -/
  | alreadyExists
  /-- The call would have to wait. -/
  | wouldBlock
  /-- A parameter makes no sense. -/
  | invalidInput
  /-- The data make no sense. -/
  | invalidData
  /-- The call took too long. -/
  | timedOut
  /-- A write took no bytes. -/
  | writeZero
  /-- The call was broken off and may be made again. -/
  | interrupted
  /-- The system has no such call. -/
  | unsupported
  /-- The data ended too early. -/
  | unexpectedEof
  /-- There was no memory for the call. -/
  | outOfMemory
  /-- Anything else. -/
  | other
  deriving DecidableEq, Repr

/-- The text of a kind of failure. -/
def ErrorKind.text : ErrorKind → String
  | .notFound => "entity not found"
  | .permissionDenied => "permission denied"
  | .connectionRefused => "connection refused"
  | .connectionReset => "connection reset"
  | .brokenPipe => "broken pipe"
  | .alreadyExists => "entity already exists"
  | .wouldBlock => "operation would block"
  | .invalidInput => "invalid input parameter"
  | .invalidData => "invalid data"
  | .timedOut => "timed out"
  | .writeZero => "write zero"
  | .interrupted => "operation interrupted"
  | .unsupported => "unsupported"
  | .unexpectedEof => "unexpected end of file"
  | .outOfMemory => "out of memory"
  | .other => "other error"

/-- Why a call failed. -/
inductive IoError where
  /-- The operating system refused, with this error number. -/
  | os (errno : Int)
  /-- A failure of a kind, without more to say. -/
  | bare (kind : ErrorKind)
  /-- A failure of a kind, with its own text. -/
  | described (kind : ErrorKind) (text : String)
  deriving DecidableEq, Repr

namespace IoError

/-- The error number, zero where there is none. -/
def code : IoError → Int
  | .os errno => errno
  | .bare _ | .described _ _ => 0

/-- The text shown for an error. -/
def message : IoError → String
  | .os errno => Errno.text errno ++ " (os error " ++ Decimal.int errno ++ ")"
  | .bare kind => kind.text
  | .described _ text => text

/-- May the same call be made again at once? -/
def isInterrupted : IoError → Bool
  | .os errno => errno = Errno.interrupted
  | .bare kind | .described kind _ => kind = .interrupted

/-- A name with a zero octet cannot be handed to the operating system. -/
def nulInName : IoError := .described .invalidInput "file name contained an unexpected NUL byte"

/-- An argument with a zero octet cannot be handed to a program. -/
def nulInArgument : IoError := .described .invalidInput "nul byte found in provided data"

/-- A read ended before it had as many bytes as it needs. -/
def shortRead : IoError := .described .unexpectedEof "failed to fill whole buffer"

end IoError

end LaunchStub
