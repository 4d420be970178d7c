import LaunchStub.Bytes

/-!
# Environments

The variables of a process: a list of names and values, in the order the process holds them. A name
may occur more than once; then the first occurrence is the one that a look-up finds and that a new
value takes the place of.

## The model

A process that removes a variable keeps no occurrence of it. Whoever holds a list of variables in
place of a process's own may lose the first one alone, so what goes is named (`Removal`). The two
come to the same for a name that occurs at most once.

A program that is started finds its variables in a block of strings, each a name, an equals sign
and a value. It reads a string up to the first equals sign that is not its first octet. So a name
that holds an equals sign arrives cut short, with the rest of it in the value, and an empty name
may not arrive at all; any other variable arrives as it was.
-/

namespace LaunchStub

/-- The variables of a process, in order. -/
abbrev Environment := List (Bytes × Bytes)

/-- What of a name goes when it is removed. -/
inductive Removal where
  /-- All of it. -/
  | everyOccurrence
  /-- Its first occurrence, so that the next one is found. -/
  | firstOccurrence
  deriving DecidableEq, Repr

namespace Environment

/-- The value of a name's first occurrence. -/
def get? (env : Environment) (name : Bytes) : Option Bytes := env.lookup name

/-- Gives a name a value: in place of its first occurrence, or at the end if there is none. -/
def put (env : Environment) (name value : Bytes) : Environment :=
  match env with
  | [] => [(name, value)]
  | v :: rest => if v.1 = name then (name, value) :: rest else v :: put rest name value

/-- The variables without any occurrence of a name. -/
def without (env : Environment) (name : Bytes) : Environment := env.filter fun v => v.1 ≠ name

/-- Removes a name. -/
def remove (env : Environment) (name : Bytes) : Removal → Environment
  | .everyOccurrence => env.without name
  | .firstOccurrence => env.eraseP fun v => v.1 = name

/-- Gives a name a value, or removes it where the value is absent. -/
def update (env : Environment) (name : Bytes) (value : Option Bytes)
    (removal : Removal := .everyOccurrence) : Environment :=
  match value with
  | some value => env.put name value
  | none => env.remove name removal

/-- The strings in which variables are handed to a program. -/
def block (env : Environment) : List Bytes := env.map fun v => v.1 ++ Bytes.equals :: v.2

/-- The variable that a program reads from a string: the name ends before the first equals sign
behind the first octet. Where there is none the string holds no variable. -/
def ofString? : Bytes → Option (Bytes × Bytes)
  | [] => none
  | b :: rest => match rest.dropWhile (· ≠ Bytes.equals) with
    | [] => none
    | _ :: value => some (b :: rest.takeWhile (· ≠ Bytes.equals), value)

/-- The variables that a program finds in a block. -/
def ofBlock (strings : List Bytes) : Environment := strings.filterMap ofString?

/-- The variables as a program finds them that is started with them. -/
def handOver (env : Environment) : Environment := ofBlock (block env)

/-- The value put is the value found. -/
theorem get?_put (env : Environment) (name value : Bytes) :
    (env.put name value).get? name = some value := by
  induction env with
  | nil => simp [put, get?]
  | cons v rest ih =>
    obtain ⟨k, x⟩ := v
    by_cases h : k = name
    · simp [put, get?, h]
    · have hne : (name == k) = false := by simpa using fun h' => h h'.symm
      simpa [put, get?, h, List.lookup_cons, hne] using ih

end Environment

end LaunchStub
