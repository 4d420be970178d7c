import LaunchStub.Bytes

/-!
# File names

A path is a byte string: names between slashes. Repeated slashes count as one. The name `.` is the
directory it stands in, and `..` the one above. Slashes and dots that lead nowhere still count for
the length of a path, so a part of a path is cut out of it as it is written.
-/

namespace LaunchStub.Path

/-- The name of the directory itself. -/
def dot : Bytes := [0x2e]

/-- The name of the directory above. -/
def dotDot : Bytes := [0x2e, 0x2e]

/-- Does the path start at the root? -/
def isAbsolute (path : Bytes) : Bool := path.head? = some Bytes.slash

/-- Does the path end in a slash, so that it can only be a directory? -/
def endsInSlash (path : Bytes) : Bool := path.getLast? = some Bytes.slash

/-- The names in a path, in order. -/
def names (path : Bytes) : List Bytes := (Bytes.splitAt Bytes.slash path).filter (· ≠ [])

/-- The names in a path that say something: `.` does not. -/
def properNames (path : Bytes) : List Bytes := (names path).filter (· ≠ dot)

/-- A path below a directory: a slash comes between, unless the directory is empty or ends in one.
-/
def join (dir name : Bytes) : Bytes :=
  if dir = [] ∨ endsInSlash dir then dir ++ name else dir ++ Bytes.slash :: name

/-- The last name of a path; none if that is `..` or if there is no name at all. -/
def fileName? (path : Bytes) : Option Bytes := (properNames path).getLast?.filter (· ≠ dotDot)

/-- The path that consists of these names, from the root or not. -/
def ofNames (absolute : Bool) (names : List Bytes) : Bytes :=
  (if absolute then [Bytes.slash] else []) ++ [Bytes.slash].intercalate names

/-- Does a run between slashes lead nowhere? Such are `.` and the empty one. -/
def isIdle (run : Bytes) : Bool := run = [] || run = dot

/-- The runs of a path between its slashes, last one first, without the idle ones at its end. -/
def upward (path : Bytes) : List Bytes :=
  (Bytes.splitAt Bytes.slash path).reverse.dropWhile isIdle

/-- The path that has these runs, last one first. A path from the root keeps the root. -/
def ofUpward (absolute : Bool) (runs : List Bytes) : Bytes :=
  if absolute ∧ runs = [] then [Bytes.slash] else [Bytes.slash].intercalate runs.reverse

/-- The directory that a path's last name stands in: the path as it is written, up to the name
before that one. -/
def directory (path : Bytes) : Bytes :=
  ofUpward (isAbsolute path) ((upward path).tail.dropWhile isIdle)

end LaunchStub.Path
