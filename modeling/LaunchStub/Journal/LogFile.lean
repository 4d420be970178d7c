import LaunchStub.Files.FileSystem
import LaunchStub.Text.Utf8

/-!
# The journal's file

The journal goes to a file that is created, with the directories above it, when the stub starts. A
stub that cannot set its journal up says so and runs without one.
-/

namespace LaunchStub

/-- Why there is no journal. -/
inductive LogError where
  /-- The path's last name names no file. -/
  | noFileName (path : Bytes)
  /-- The directories could not be created. -/
  | io (cause : IoError)
  /-- The process has a journal already. -/
  | alreadySet
  deriving DecidableEq, Repr

namespace LogError

/-- The text shown where there is no journal. -/
def message : LogError → String
  | .noFileName path => "log path has no file name: " ++ Utf8.lossy path
  | .io cause => "IO error: " ++ cause.message
  | .alreadySet =>
    "subscriber setup failed: a global default trace dispatcher has already been set"

end LogError

namespace FileSystem

/-- Creates the journal's file, and the directories above it. A file that is there is kept. -/
def createLogFile (fs : FileSystem) (path : Bytes) : Except LogError FileSystem :=
  match Path.fileName? path with
  | none => .error (.noFileName path)
  | some name => match fs.createDirectories (Path.directory path) with
    | .error e => .error (.io e)
    | .ok fs => match fs.create (Path.join (Path.directory path) name) (.file [] false) with
      | .ok fs => .ok fs
      | .error _ => .ok fs

/-- Sets the journal up in a process that may have one already. The file is created all the same.
-/
def setUpLog (fs : FileSystem) (path : Bytes) (taken : Bool) : Option LogError × FileSystem :=
  match fs.createLogFile path with
  | .error e => (some e, fs)
  | .ok fs => (if taken then some .alreadySet else none, fs)

end FileSystem

end LaunchStub
