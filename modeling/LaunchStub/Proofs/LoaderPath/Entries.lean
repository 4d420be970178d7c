import LaunchStub.LoaderPath
import LaunchStub.Proofs.Bytes

/-!
# The entries of a composed path

A path is made of up to three values, each of which is a path of its own: it may list several
directories, and an empty entry in it, at an end or between two colons, stands for the current
directory. Joining the values must put a colon between two of them and nowhere else, for a colon too
many would put the current directory on the path.

## What is proved

* `compose_eq_none_iff` — there is no path exactly if there is no value but absent and empty ones.
* `entries_compose` — the entries of a path are those of the values that it is made of.
-/

namespace LaunchStub.LoaderPath

variable {first inherited last : Option Bytes} {strict : Bool}

/-- The values that a path is made of, in order. The inherited one counts only if it is not left
out. -/
def considered (first inherited last : Option Bytes) (strict : Bool) : List (Option Bytes) :=
  if strict then [first, last] else [first, inherited, last]

/-- The entries that the loader reads in a path. -/
def entries (path : Bytes) : List Bytes := Bytes.splitAt Bytes.colon path

/-- The entries that a value has to give: none if it is absent or empty. -/
def entriesOf : Option Bytes → List Bytes
  | none | some [] => []
  | some path => entries path

/-- The parts are the values that have something to give. -/
theorem parts_eq (first inherited last : Option Bytes) (strict : Bool) :
    parts first inherited last strict =
      ((considered first inherited last strict).filterMap id).filter (· ≠ []) := by
  cases strict <;> rfl

/-- A path is the parts with colons between them, if there are any. -/
theorem compose_eq (first inherited last : Option Bytes) (strict : Bool) :
    compose first inherited last strict =
      if parts first inherited last strict = [] then none
      else some ([Bytes.colon].intercalate (parts first inherited last strict)) := by
  rw [compose]
  split <;> simp_all

theorem compose_eq_none_iff : compose first inherited last strict = none ↔
    ∀ value ∈ considered first inherited last strict, value = none ∨ value = some [] := by
  have hparts : compose first inherited last strict = none ↔
      parts first inherited last strict = [] := by
    rw [compose_eq]
    split <;> simp_all
  rw [hparts, parts_eq, List.filter_eq_nil_iff]
  constructor
  · intro h value hvalue
    cases value with
    | none => exact .inl rfl
    | some path =>
      have hpath := h path (List.mem_filterMap.mpr ⟨some path, hvalue, rfl⟩)
      exact .inr (by simpa using hpath)
  · intro h path hpath
    obtain ⟨value, hvalue, rfl⟩ := List.mem_filterMap.mp hpath
    simpa using h (some path) hvalue

/-- What the parts have to give is what the values have to give. -/
theorem flatMap_entriesOf (values : List (Option Bytes)) :
    ((values.filterMap id).filter (· ≠ [])).flatMap entries = values.flatMap entriesOf := by
  induction values with
  | nil => rfl
  | cons value rest ih =>
    match value with
    | none => exact ih
    | some [] => exact ih
    | some (b :: path) => exact congrArg (entries (b :: path) ++ ·) ih

/-- **The entries of a path.** There is no path exactly if all values that count are absent or
empty. Any other path has just the entries of those values, one value after the other and each in
its own order: none is lost, none comes twice. An empty entry, which the loader takes for the
current directory, stands in the path only if one of the values has it. -/
theorem entries_compose (first inherited last : Option Bytes) (strict : Bool) :
    (compose first inherited last strict = none ↔
      ∀ value ∈ considered first inherited last strict, value = none ∨ value = some []) ∧
    ∀ path, compose first inherited last strict = some path →
      entries path = (considered first inherited last strict).flatMap entriesOf ∧
        ([] ∈ entries path ↔
          ∃ value ∈ considered first inherited last strict, [] ∈ entriesOf value) := by
  refine ⟨compose_eq_none_iff, fun path hpath => ?_⟩
  rw [compose_eq] at hpath
  split at hpath
  · contradiction
  · rename_i hparts
    have hentries : entries path = (considered first inherited last strict).flatMap entriesOf := by
      rw [← Option.some.inj hpath, entries, Bytes.splitAt_intercalate hparts, parts_eq]
      exact flatMap_entriesOf _
    exact ⟨hentries, by rw [hentries, List.mem_flatMap]⟩

/-- Two values with a colon at the end that they are joined at: the empty entries of both stand in
the path, and no third. -/
theorem entries_compose_colons :
    let path := Bytes.ofText "/a:::/b"
    compose (some (Bytes.ofText "/a:")) (some []) (some (Bytes.ofText ":/b")) false = some path ∧
      entries path = [Bytes.ofText "/a", [], [], Bytes.ofText "/b"] := by
  intro path
  have hpath : compose (some (Bytes.ofText "/a:")) (some []) (some (Bytes.ofText ":/b")) false =
      some path := by decide
  exact ⟨hpath, ((entries_compose _ _ _ _).2 path hpath).1.trans (by decide)⟩

end LaunchStub.LoaderPath
