import LaunchStub.Environment

/-!
# Directives

Three reserved variables steer the search path of the dynamic loader. They are meant for the stub:
it applies them and keeps them from the target.

## The model

A variable is a directive exactly if its name is one of the three reserved names, byte for byte.
`Directive.collect` gives the directives of an environment in the order in which they are applied,
each at most once, with the value of its first occurrence.
-/

namespace LaunchStub

/-- A reserved variable that steers the loader's search path. -/
inductive Directive where
  /-- Search these entries before all others. -/
  | first
  /-- Search these entries after all others. -/
  | last
  /-- Say whether the inherited entries are left out. -/
  | strict
  deriving DecidableEq, Repr

namespace Directive

/-- All directives, in the order in which they are applied. -/
def all : List Directive := [.first, .last, .strict]

/-- The reserved name. -/
def name : Directive → Bytes
  | .first => Bytes.ofText "PSTUB_BEGINLIBPATH"
  | .last => Bytes.ofText "PSTUB_ENDLIBPATH"
  | .strict => Bytes.ofText "PSTUB_LIBPATHSTRICT"

/-- The directive that has this name, if one has. -/
def ofName? (name : Bytes) : Option Directive := all.find? fun d => name = d.name

/-- The directives among the variables, in the variables' order. -/
def occurrences (env : Environment) : List (Directive × Bytes) :=
  env.filterMap fun v => (ofName? v.1).map fun d => (d, v.2)

/-- The directives of an environment in the order in which they are applied, each with the value of
its first occurrence. -/
def collect (env : Environment) : List (Directive × Bytes) :=
  all.filterMap fun d => (occurrences env).find? fun o => o.1 = d

/-- A directive is found by its name. -/
@[simp] theorem ofName?_name (d : Directive) : ofName? d.name = some d := by
  cases d <;> decide

/-- Only its own name finds a directive. -/
theorem ofName?_eq_some_iff {n : Bytes} {d : Directive} : ofName? n = some d ↔ n = d.name := by
  constructor
  · intro h
    simpa using List.find?_some h
  · rintro rfl
    exact ofName?_name d

end Directive

/-- The variables handed to the target: none of them is a directive. -/
structure ChildEnvironment where
  /-- The variables, in order. -/
  vars : Environment
  /-- No directive is among them. -/
  clean : ∀ v ∈ vars, Directive.ofName? v.1 = none
  deriving DecidableEq, Repr

namespace ChildEnvironment

/-- Leaves the directives out and all else as it is. -/
def sanitize (env : Environment) : ChildEnvironment where
  vars := env.filter fun v => (Directive.ofName? v.1).isNone
  clean := by simp

/-- Variables without directives are left as they are. -/
theorem vars_sanitize_of_clean {env : Environment}
    (h : ∀ v ∈ env, Directive.ofName? v.1 = none) : (sanitize env).vars = env := by
  simpa [sanitize] using h

/-- The value of a name's first occurrence. -/
def get? (env : ChildEnvironment) (name : Bytes) : Option Bytes := env.vars.get? name

end ChildEnvironment

end LaunchStub
