import LaunchStub.Directive
import LaunchStub.IoError
import LaunchStub.Text.Quoted
import LaunchStub.Text.Utf8

/-!
# The loader's search path

The dynamic loader looks for shared libraries in the directories that one variable lists, separated
by colons. Directives put entries in front of the inherited ones, put entries behind them, or leave
the inherited ones out.

## The model

`LoaderPath.compose` joins the parts that are there and not empty; without any such part there is
no path at all, which is not the same as an empty one: the loader reads an empty entry as the
current directory. `LoaderPath` is the state that directives build up, one field for each, and
`SteeredEnvironment` is an environment whose variable follows that state. The inherited value is
taken once, at the first directive, so that later directives do not pile up on earlier results.
-/

namespace LaunchStub

/-- A strictness flag that is neither yes nor no. -/
structure StrictnessError where
  /-- The flag's value. -/
  flag : Bytes
  deriving DecidableEq, Repr

/-- The text shown for a strictness error. -/
def StrictnessError.message (e : StrictnessError) : String :=
  "invalid strictness flag " ++ Text.quoted (Utf8.lossy e.flag) ++ ", expected T or F"

/-- The state that directives build up. -/
structure LoaderPath where
  /-- The value found at the first directive. -/
  inherited : Option Bytes
  /-- The entries that go in front. -/
  first : Option Bytes := none
  /-- The entries that go behind. -/
  last : Option Bytes := none
  /-- Are the inherited entries left out? -/
  strict : Bool := false
  deriving DecidableEq, Repr

namespace LoaderPath

/-- The variable that lists the directories. -/
def variableName : Bytes := Bytes.ofText "LD_LIBRARY_PATH"

/-- The parts that a path is made of, in order: those that are present and not empty. -/
def parts (first inherited last : Option Bytes) (strict : Bool) : List Bytes :=
  ([first, if strict then none else inherited, last].filterMap id).filter (· ≠ [])

/-- Joins the parts with colons; without parts there is no path. -/
def compose (first inherited last : Option Bytes) (strict : Bool) : Option Bytes :=
  match parts first inherited last strict with
  | [] => none
  | held => some ([Bytes.colon].intercalate held)

/-- The answer that a strictness flag gives: `T` and `t` mean yes, `F` and `f` mean no. -/
def flag? (value : Bytes) : Option Bool :=
  if value = Bytes.ofText "T" ∨ value = Bytes.ofText "t" then some true
  else if value = Bytes.ofText "F" ∨ value = Bytes.ofText "f" then some false
  else none

/-- Takes one directive in. A flag that is no answer is refused. -/
def apply (path : LoaderPath) (directive : Directive) (value : Bytes) :
    Except StrictnessError LoaderPath :=
  match directive with
  | .first => .ok { path with first := some value }
  | .last => .ok { path with last := some value }
  | .strict => match flag? value with
    | some answer => .ok { path with strict := answer }
    | none => .error ⟨value⟩

/-- The value that the variable is to have. -/
def value (path : LoaderPath) : Option Bytes :=
  compose path.first path.inherited path.last path.strict

end LoaderPath

/-- An environment whose loader variable follows the directives. -/
structure SteeredEnvironment where
  /-- The variables as they are now. -/
  vars : Environment
  /-- The state the directives have built up; none before the first. -/
  path : Option LoaderPath := none
  deriving DecidableEq, Repr

namespace SteeredEnvironment

/-- The state that the next directive meets: at the first one, the inherited value alone. -/
def current (env : SteeredEnvironment) : LoaderPath :=
  env.path.getD ⟨env.vars.get? LoaderPath.variableName, none, none, false⟩

/-- Applies one directive and lets the variable follow: it goes where the path has no value. A
refused directive leaves the variable alone. -/
def extend (env : SteeredEnvironment) (directive : Directive) (value : Bytes)
    (removal : Removal := .everyOccurrence) : Except IoError Unit × SteeredEnvironment :=
  match env.current.apply directive value with
  | .ok path =>
    (.ok (), ⟨env.vars.update LoaderPath.variableName path.value removal, some path⟩)
  | .error e => (.error (.described .invalidInput e.message), ⟨env.vars, some env.current⟩)

/-- Changes the variable without a directive, as somebody else in the process may. -/
def overwrite (env : SteeredEnvironment) (value : Option Bytes) : SteeredEnvironment :=
  { env with vars := env.vars.update LoaderPath.variableName value }

/-- The variable's value. -/
def value (env : SteeredEnvironment) : Option Bytes := env.vars.get? LoaderPath.variableName

end SteeredEnvironment

end LaunchStub
