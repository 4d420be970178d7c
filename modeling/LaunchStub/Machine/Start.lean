import LaunchStub.Command
import LaunchStub.Executable
import LaunchStub.Files.FileSystem

/-!
# Starting a program

What the operating system does with a command: it finds the program's file, looks at the start of
it, and either runs it as a native image, or runs the interpreter that a script names, with the
script in front of the arguments.

## The model

A program's name with a slash in it is a path, taken from the current directory. A name without one
is looked for in the directories that the *command's* variable `PATH` lists, one after the other,
an empty entry being the current directory. What is found that way and is no program is not refused
but handed to the shell, as a file of commands. An interpreter may itself be a script, five times
over.

## Honest scope

Native images are all one program: what matters is with which arguments it runs.
-/

namespace LaunchStub

/-- What carries out the file that was asked for. -/
inductive Runner where
  /-- A native image: the file itself, or a script's interpreter. -/
  | image
  /-- The shell, for which the file holds these commands. -/
  | shell (commands : Bytes)
  deriving DecidableEq, Repr

/-- A program that was started. -/
structure Started where
  /-- The file that was asked for: the native image, the script, or the file of commands. -/
  file : Place
  /-- The arguments that the native image or the shell runs with. -/
  arguments : List Bytes
  /-- What carries the file out. -/
  runner : Runner := .image
  deriving DecidableEq, Repr

namespace FileSystem

/-- How many files may be opened to start one program: itself, and five interpreters behind one
another. -/
def maxProgramFiles : Nat := 6

/-- Is the octet a blank between the words of a script's first line? -/
def isBlank (b : UInt8) : Bool := b = 0x20 || b = 0x09

/-- The interpreter that a script's first line names, and the argument it gives to it. -/
def interpreter (content : Bytes) : Bytes × List Bytes :=
  let line := ((content.drop 2).takeWhile (· ≠ Bytes.newline)).dropWhile isBlank
  let trimmed := (line.reverse.dropWhile isBlank).reverse
  (trimmed.takeWhile (!isBlank ·),
    match (trimmed.dropWhile (!isBlank ·)).dropWhile isBlank with
    | [] => []
    | argument => [argument])

/-- The longest string that can be handed to a program. -/
def maxHanded : Nat := 131071

/-- Can all that a command hands to its program be handed over? -/
def fitsHandOver (command : Command) : Bool :=
  (command.program :: command.arguments ++ command.env.block).all (·.length ≤ maxHanded)

/-- Opens the file under a path to execute it: its place and its content. -/
def openProgram (fs : FileSystem) (path : Bytes) : Except IoError (Place × Bytes) :=
  match fs.resolve path with
  | .error e => .error e
  | .ok place => match fs.nodeAt? place with
    | some (.file content true) => .ok (place, content)
    | _ => .error (.os Errno.accessDenied)

/-- Starts the file under a path; does all that is handed to it fit? A script is started by
starting its interpreter. Only so many files may be opened on the way to a native image; that they
are too many is found when the next one has been opened. -/
def startFile (fs : FileSystem) (fits : Bool) (files : Nat) (path : Bytes)
    (arguments : List Bytes) : Except IoError Started :=
  match fs.openProgram path with
  | .error e => .error e
  | .ok (place, content) => match files with
    | 0 => .error (.os Errno.tooManyLinks)
    | files + 1 =>
      if !fits then .error (.os Errno.argumentTooLong)
      else match AppType.classify content with
        | .ok .console => .ok ⟨place, arguments, .image⟩
        | .ok .script =>
          let (program, given) := interpreter content
          if program = [] then .error (.os Errno.badExecutable)
          else match startFile fs fits files program (given ++ path :: arguments) with
            | .ok started => .ok ⟨place, started.arguments, .image⟩
            | .error e => .error e
        | .ok .foreign | .error _ => .error (.os Errno.badExecutable)

/-- The variable that lists the directories of programs. -/
def searchVariable : Bytes := Bytes.ofText "PATH"

/-- The directories of programs where no variable lists any. -/
def standardDirectories : Bytes := Bytes.ofText "/bin:/usr/bin"

/-- The path of a program in a directory; the empty name is that of the current one. -/
def inDirectory (dir program : Bytes) : Bytes :=
  if dir = [] then program else dir ++ Bytes.slash :: program

/-- The paths of a program in directories. A directory's name that is too long for a path is taken
for the empty one, but at the end of the list it is left out. -/
def pathsIn (program : Bytes) : List Bytes → List Bytes
  | [] => []
  | [dir] => if maxPath < dir.length then [] else [inDirectory dir program]
  | dir :: rest =>
    inDirectory (if maxPath < dir.length then [] else dir) program :: pathsIn program rest

/-- The paths under which a program may be found, in the order in which they are tried. The list is
looked up where the program itself will find its variables. -/
def candidates (env : Environment) (program : Bytes) : List Bytes :=
  let list := (env.handOver.get? searchVariable).getD standardDirectories
  pathsIn program (Bytes.splitAt Bytes.colon list)

/-- Hands the file under a path to the shell, if it failed to start only because it is no
program. -/
def orShell (fs : FileSystem) (path : Bytes) (arguments : List Bytes)
    (answer : Except IoError Started) : Except IoError Started :=
  if answer = .error (.os Errno.badExecutable) then
    match fs.resolve path with
    | .error e => .error e
    | .ok place => match fs.nodeAt? place with
      | some (.file content _) => .ok ⟨place, path :: arguments, .shell content⟩
      | _ => answer
  else answer

/-- Does a failed try end the search, or is the next directory tried? -/
def endsSearch (e : IoError) : Bool :=
  !(e = .os Errno.noEntry || e = .os Errno.notDirectory || e = .os Errno.accessDenied)

/-- Tries paths one after the other. If all fail the last failure counts, unless access was denied
on the way. -/
def startFirst (fs : FileSystem) (fits : Bool) (arguments : List Bytes) (denied : Bool)
    (last : IoError) : List Bytes → Except IoError Started
  | [] => .error (if denied then .os Errno.accessDenied else last)
  | path :: rest =>
    match fs.orShell path arguments (fs.startFile fits maxProgramFiles path arguments) with
    | .ok started => .ok started
    | .error e =>
      if endsSearch e then .error e
      else startFirst fs fits arguments (denied || e = .os Errno.accessDenied) e rest

/-- Starts the program of a command. -/
def startCommand (fs : FileSystem) (command : Command) : Except IoError Started :=
  if !command.canStart then .error .nulInArgument
  else if command.program.contains Bytes.slash then
    fs.startFile (fitsHandOver command) maxProgramFiles command.program command.arguments
  else if command.program = [] then .error (.os Errno.noEntry)
  else fs.startFirst (fitsHandOver command) command.arguments false (.os Errno.noEntry)
    (candidates command.env command.program)

end FileSystem

end LaunchStub
