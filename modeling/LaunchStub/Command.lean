import LaunchStub.Directive

/-!
# Commands

What the operating system is asked to start: a program, its arguments, its variables, and whether
it keeps the stub's process group, input and output.

## The model

A request names the target, one argument string and the child's environment. The string is passed
on as a single argument and left out if it is empty. A command holds its variables as a table:
sorted by name, each name once, with the last value that the request gives it (`Command.table`).

The operating system takes no string with a zero octet in it. A command with such a string can be
made but not started: it holds a note in place of the string, and knows that it is not faithful.
-/

namespace LaunchStub

/-- What to start, and with which environment. -/
structure LaunchRequest where
  /-- The program. -/
  target : Bytes
  /-- The argument string. -/
  arguments : Bytes
  /-- The variables. -/
  env : ChildEnvironment
  deriving DecidableEq, Repr

/-- What the operating system is asked to start. -/
structure Command where
  /-- The program. -/
  program : Bytes
  /-- Its arguments, without the program's own name. -/
  arguments : List Bytes
  /-- Its variables, sorted by name, each name once. -/
  env : Environment
  /-- Does it lead a process group of its own? -/
  leadsGroup : Bool
  /-- Is its standard input the null device? -/
  stdinNull : Bool
  /-- Are its standard output and error output the null device? -/
  stdoutNull : Bool
  /-- Are the program and the arguments those that were asked for? -/
  faithful : Bool
  deriving DecidableEq, Repr

namespace Command

/-- Enters a variable into a sorted table, in place of an entry of the same name. -/
def enter (table : Environment) (name value : Bytes) : Environment :=
  match table with
  | [] => [(name, value)]
  | v :: rest =>
    if v.1 = name then (name, value) :: rest
    else if Bytes.le name v.1 then (name, value) :: v :: rest
    else v :: enter rest name value

/-- The table of a list of variables: of equal names the last one counts. -/
def table (vars : Environment) : Environment :=
  vars.foldl (fun table v => enter table v.1 v.2) []

/-- The arguments made from an argument string: the string as one argument, none if it is empty. -/
def argumentsOf (arguments : Bytes) : List Bytes :=
  if arguments = [] then [] else [arguments]

/-- Can the string be handed to the operating system? -/
def isFit (string : Bytes) : Bool := !string.contains Bytes.nul

/-- What a command holds for a string: a note if the string cannot be handed over. -/
def held (string : Bytes) : Bytes :=
  if isFit string then string else Bytes.ofText "<string-with-nul>"

/-- The command for a request, with a process group and streams as given. -/
def ofRequest (request : LaunchRequest) (leadsGroup stdinNull stdoutNull : Bool) : Command where
  program := held request.target
  arguments := (argumentsOf request.arguments).map held
  env := table request.env.vars
  leadsGroup := leadsGroup
  stdinNull := stdinNull
  stdoutNull := stdoutNull
  faithful := isFit request.target && isFit request.arguments

/-- The command for an ordinary child. -/
def direct (request : LaunchRequest) : Command := ofRequest request false false false

/-- Can the command be handed to the operating system? -/
def canStart (command : Command) : Bool :=
  command.faithful && command.env.all fun v => isFit v.1 && isFit v.2

end Command

/-- How a session is started. -/
structure SessionStart where
  /-- What to start in the session. -/
  request : LaunchRequest
  /-- Does the session keep the stub's process group and input? -/
  foreground : Bool
  /-- Does the session write to the stub's output? -/
  visible : Bool

namespace SessionStart

/-- The command for a session: in the background it leads its own group and reads nothing, and if
it is not visible it writes nowhere. -/
def command (start : SessionStart) : Command :=
  Command.ofRequest start.request (!start.foreground) (!start.foreground) (!start.visible)

/-- The session that a request is launched in: on the console and in the foreground. -/
def onConsole (request : LaunchRequest) : SessionStart := ⟨request, true, true⟩

end SessionStart

end LaunchStub
