import LaunchStub.Files.Path
import LaunchStub.IoError

/-!
# A file system

The files that a process can name: a tree of directories with files, sockets and pipes at its
leaves, and the current directory, which relative paths start from.

## The model

A place in the tree is the list of the names that lead to it, without `.` and `..`; the tree is a
table from places to what stands there, and the root is always a directory. `FileSystem.walk`
follows a path name by name. Each name must be looked up in a directory that is there, so a path
that runs through a file fails otherwise than one that runs through nothing, and which of the two
comes first on the path decides.

## Honest scope

There are no links, no owners, and of the permissions only the one to execute a file.
-/

namespace LaunchStub

/-- What stands at a place. -/
inductive Node where
  /-- A directory. -/
  | directory
  /-- A file with this content; may it be executed? -/
  | file (content : Bytes) (executable : Bool)
  /-- A device that gives these octets without end. -/
  | device (octet : Nat → UInt8)
  /-- A device that is always empty. -/
  | null
  /-- A socket that somebody listens at. -/
  | socket
  /-- A named pipe. -/
  | pipe

namespace Node

/-- A device that gives zero octets without end. -/
def zeroes : Node := .device fun _ => 0

/-- Whether two nodes are the same cannot be found out, for devices go on without end; but whether
one is a directory can. -/
instance (node : Option Node) : Decidable (node = some .directory) :=
  match node with
  | some .directory => .isTrue rfl
  | none | some (.file _ _) | some (.device _) | some .null | some .socket | some .pipe =>
    .isFalse nofun

end Node

/-- A place: the names that lead to it from the root. -/
abbrev Place := List Bytes

/-- The files, and the current directory. -/
structure FileSystem where
  /-- What stands where, the root left out. -/
  entries : List (Place × Node)
  /-- The place that relative paths start from. -/
  current : Place := []

namespace FileSystem

/-- The longest name. -/
def maxName : Nat := 255

/-- The longest path. -/
def maxPath : Nat := 4095

/-- What stands at a place. -/
def nodeAt? (fs : FileSystem) (place : Place) : Option Node :=
  if place = [] then some .directory else fs.entries.lookup place

/-- Is there a directory at a place? -/
def isDirectoryAt (fs : FileSystem) (place : Place) : Bool := fs.nodeAt? place = some .directory

/-- Follows names from a place that is there. Each is looked up in the place that the ones before
it lead to, which must be a directory, and so must be the place above it if that is asked for. -/
def walk (fs : FileSystem) (here : Place) : List Bytes → Except IoError Place
  | [] => .ok here
  | name :: rest =>
    if !fs.isDirectoryAt here then .error (.os Errno.notDirectory)
    else if name = Path.dot then walk fs here rest
    else if name = Path.dotDot then
      if fs.isDirectoryAt here.dropLast then walk fs here.dropLast rest
      else .error (.os Errno.notDirectory)
    else if maxName < name.length then .error (.os Errno.nameTooLong)
    else match fs.nodeAt? (here ++ [name]) with
      | none => .error (.os Errno.noEntry)
      | some _ => walk fs (here ++ [name]) rest

/-- The place that a path starts from. -/
def start (fs : FileSystem) (path : Bytes) : Place :=
  if Path.isAbsolute path then [] else fs.current

/-- The names to follow for a path; a slash at the end asks for the directory itself. -/
def steps (path : Bytes) : List Bytes :=
  Path.names path ++ if Path.endsInSlash path then [Path.dot] else []

/-- Why a path can be no path, if it can be none. -/
def refusal? (path : Bytes) : Option IoError :=
  if path.contains Bytes.nul then some .nulInName
  else if path = [] then some (.os Errno.noEntry)
  else if maxPath < path.length then some (.os Errno.nameTooLong)
  else none

/-- The place that a path leads to. -/
def resolve (fs : FileSystem) (path : Bytes) : Except IoError Place :=
  match refusal? path with
  | some e => .error e
  | none => fs.walk (fs.start path) (steps path)

/-- Is there a directory under this path? -/
def isDirectory (fs : FileSystem) (path : Bytes) : Bool :=
  match fs.resolve path with
  | .ok place => fs.isDirectoryAt place
  | .error _ => false

/-- Does the path lead to anything? -/
def isThere (fs : FileSystem) (path : Bytes) : Bool :=
  match fs.resolve path with
  | .ok _ => true
  | .error _ => false

/-- The first bytes, as many as asked for, of what the path leads to. -/
def readStart (fs : FileSystem) (path : Bytes) (count : Nat) : Except IoError Bytes :=
  match fs.resolve path with
  | .error e => .error e
  | .ok place => match fs.nodeAt? place with
    | some (.file content _) => .ok (content.take count)
    | some (.device octet) => .ok ((List.range count).map octet)
    | some .directory => .error (.os Errno.isDirectory)
    | some .socket => .error (.os Errno.noDevice)
    | some .null | some .pipe | none => .ok []

/-- Makes the directory under this path the current one. -/
def enter (fs : FileSystem) (path : Bytes) : Except IoError FileSystem :=
  match fs.resolve path with
  | .error e => .error e
  | .ok place =>
    if fs.isDirectoryAt place then .ok { fs with current := place }
    else .error (.os Errno.notDirectory)

/-- The place that a new name would stand at. The directory it goes into must be there, and the
name must be free. -/
def freePlace (fs : FileSystem) (path : Bytes) : Except IoError Place :=
  match refusal? path with
  | some e => .error e
  | none => match (Path.names path).getLast? with
    | none => .error (.os Errno.exists_)
    | some name => match fs.walk (fs.start path) (Path.names path).dropLast with
      | .error e => .error e
      | .ok dir =>
        if !fs.isDirectoryAt dir then .error (.os Errno.notDirectory)
        else if name = Path.dot ∨ name = Path.dotDot then .error (.os Errno.exists_)
        else if maxName < name.length then .error (.os Errno.nameTooLong)
        else if (fs.nodeAt? (dir ++ [name])).isSome then .error (.os Errno.exists_)
        else .ok (dir ++ [name])

/-- Puts something new under a path. -/
def create (fs : FileSystem) (path : Bytes) (node : Node) : Except IoError FileSystem :=
  match fs.freePlace path with
  | .error e => .error e
  | .ok place => .ok { fs with entries := fs.entries ++ [(place, node)] }

/-- Removes a name that is no directory. -/
def remove (fs : FileSystem) (path : Bytes) : Except IoError FileSystem :=
  match fs.resolve path with
  | .error e => .error e
  | .ok place =>
    if fs.isDirectoryAt place then .error (.os Errno.isDirectory)
    else .ok { fs with entries := fs.entries.eraseP fun entry => entry.1 = place }

/-- The names in a directory, in no particular order. -/
def namesIn (fs : FileSystem) (dir : Place) : List Bytes :=
  fs.entries.filterMap fun entry => match entry.1.getLast? with
    | some name => if entry.1.dropLast = dir then some name else none
    | none => none

/-- Makes a directory under the path that has these runs between its slashes, the last run first,
and the directories above it where they are missing. A directory that is already there will do. -/
def createDirectoriesUpward (absolute : Bool) :
    List Bytes → FileSystem → Except IoError FileSystem
  | [], fs => .ok fs
  | run :: above, fs =>
    let path := Path.ofUpward absolute (run :: above)
    let orIsThere (fs : FileSystem) (e : IoError) : Except IoError FileSystem :=
      if fs.isDirectory path then .ok fs else .error e
    if Path.isIdle run then createDirectoriesUpward absolute above fs
    else match fs.create path .directory with
    | .ok fs => .ok fs
    | .error e =>
      if e = .os Errno.noEntry then
        match createDirectoriesUpward absolute above fs with
        | .error e => .error e
        | .ok fs => match fs.create path .directory with
          | .ok fs => .ok fs
          | .error e => orIsThere fs e
      else orIsThere fs e

/-- Makes a directory, and the directories above it where they are missing. -/
def createDirectories (fs : FileSystem) (path : Bytes) : Except IoError FileSystem :=
  createDirectoriesUpward (Path.isAbsolute path) (Path.upward path) fs

end FileSystem

end LaunchStub
